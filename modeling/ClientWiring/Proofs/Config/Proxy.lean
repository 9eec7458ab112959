import ClientWiring.Client.Builder
import ClientWiring.Proofs.Number.Numeral
set_option autoImplicit false

/-! Which texts are proxy addresses. A text is cut at its last colon; both parts have to be there, and
the second one has to denote a port. Each other text has one fault, the first that applies, and the
address that a builder writes for its proxy is read back as it was. -/

namespace ClientWiring

namespace ProxyAddress

structure Parts (address host port : String) : Prop where
  joined : address = host ++ ":" ++ port
  host_ne : host ≠ ""
  port_ne : port ≠ ""
  lastColon : ':' ∉ port.toList

def IsPort (n : Int) : Prop := 1 ≤ n ∧ n ≤ 65535

instance (n : Int) : Decidable (IsPort n) := inferInstanceAs (Decidable (1 ≤ n ∧ n ≤ 65535))

/-- What a text is as a proxy address: an address, or refused for the first fault that applies. -/
inductive Reads (address : String) : Except ConfigError ProxyAddress → Prop
  | address {host text : String} {port : Nat} (parts : Parts address host text)
      (denotes : Number.Denotes text.toList port) (isPort : IsPort port) :
      Reads address (.ok ⟨host, port⟩)
  | malformed (apart : ¬ ∃ host text, Parts address host text) :
      Reads address (.error (.malformedProxy address))
  | notANumber {host text : String} (parts : Parts address host text)
      (denotesNone : ¬ ∃ n, Number.Denotes text.toList n) :
      Reads address (.error (.proxyPortNotANumber address))
  | outOfRange {host text : String} {n : Int} (parts : Parts address host text)
      (denotes : Number.Denotes text.toList n) (noPort : ¬ IsPort n) :
      Reads address (.error (.proxyPortOutOfRange address))

theorem splitLastColon?_eq_some_iff (cs host port : List Char) :
    splitLastColon? cs = some (host, port) ↔ cs = host ++ ':' :: port ∧ ':' ∉ port := by
  constructor
  · intro split
    unfold splitLastColon? at split
    dsimp only at split
    have whole : cs.reverse.takeWhile (· != ':') ++ cs.reverse.dropWhile (· != ':') = cs.reverse :=
      List.takeWhile_append_dropWhile
    split at split
    · cases split
    next colon before found =>
      cases split
      have stop := List.head?_dropWhile_not (fun c : Char => c != ':') cs.reverse
      rw [found] at stop whole
      have isColon : colon = ':' := by simpa using stop
      subst isColon
      constructor
      · calc cs = cs.reverse.reverse := (List.reverse_reverse cs).symm
          _ = (cs.reverse.takeWhile (· != ':') ++ ':' :: before).reverse := by rw [whole]
          _ = before.reverse ++ ':' :: (cs.reverse.takeWhile (· != ':')).reverse := by simp
      · intro member
        exact absurd (List.mem_takeWhile_imp (List.mem_reverse.mp member)) (by decide)
  · rintro ⟨rfl, last⟩
    have turned : (host ++ ':' :: port).reverse = port.reverse ++ ':' :: host.reverse := by simp
    have inside : ∀ c ∈ port.reverse, (c != ':') = true := by
      intro c member
      refine bne_iff_ne.mpr fun colon => last ?_
      rw [← colon]
      exact List.mem_reverse.mp member
    obtain ⟨taken, dropped⟩ :=
      Text.takeWhile_append_mark inside (show (':' != ':') = false by decide) host.reverse
    unfold splitLastColon?
    dsimp only
    rw [turned, taken, dropped]
    simp

theorem Parts.iff_split (address host port : String) :
    Parts address host port ↔
      splitLastColon? address.toList = some (host.toList, port.toList) ∧
        host.toList.isEmpty = false ∧ port.toList.isEmpty = false := by
  have nonempty : ∀ text : String, text ≠ "" ↔ text.toList.isEmpty = false := by
    intro text
    rw [List.isEmpty_eq_false_iff, ne_eq, ne_eq, String.toList_eq_nil_iff]
  have joined : address = host ++ ":" ++ port ↔
      address.toList = host.toList ++ ':' :: port.toList := by
    rw [← String.toList_inj]
    simp
  rw [splitLastColon?_eq_some_iff, ← joined, ← nonempty, ← nonempty]
  constructor
  · rintro ⟨same, host, port, last⟩
    exact ⟨⟨same, last⟩, host, port⟩
  · rintro ⟨⟨same, last⟩, host, port⟩
    exact ⟨same, host, port, last⟩

theorem parse_whole {address : String} (none : ¬ ∃ host port, Parts address host port) :
    parse address = .error (.malformedProxy address) := by
  unfold parse
  cases split : splitLastColon? address.toList with
  | none => rfl
  | some found =>
      dsimp only
      split
      · rfl
      next filled =>
        obtain ⟨host, port⟩ := Bool.or_eq_false_iff.mp (Bool.eq_false_iff.mpr filled)
        refine absurd ⟨String.ofList found.1, String.ofList found.2, ?_⟩ none
        rw [Parts.iff_split, String.toList_ofList, String.toList_ofList]
        exact ⟨split, host, port⟩

theorem parse_unread {address host port : String} (parts : Parts address host port)
    {e : Number.WholeError} (unread : Number.readWhole port.toList = .error e) :
    parse address = .error (.proxyPortNotANumber address) := by
  obtain ⟨split, host, port⟩ := (Parts.iff_split _ _ _).mp parts
  unfold parse
  rw [split]
  dsimp only
  rw [if_neg (by rw [host, port]; exact Bool.false_ne_true), unread]

theorem parse_read {address host port : String} (parts : Parts address host port) {n : Int}
    (read : Number.readWhole port.toList = .ok n) :
    parse address =
      if IsPort n then .ok ⟨host, n.toNat⟩ else .error (.proxyPortOutOfRange address) := by
  obtain ⟨split, filled, port⟩ := (Parts.iff_split _ _ _).mp parts
  unfold parse
  rw [split]
  dsimp only
  rw [if_neg (by rw [filled, port]; exact Bool.false_ne_true), read, String.ofList_toList]
  rfl

theorem parse_eq_of_reads {address : String} {result : Except ConfigError ProxyAddress}
    (reads : Reads address result) : parse address = result := by
  cases reads with
  | address parts denotes isPort =>
      rw [parse_read parts denotes.readWhole_eq, if_pos isPort, Int.toNat_natCast]
  | malformed apart => exact parse_whole apart
  | notANumber parts denotesNone =>
      obtain ⟨e, unread⟩ := (Number.readWhole_eq_error_iff _).mpr denotesNone
      exact parse_unread parts unread
  | outOfRange parts denotes noPort =>
      rw [parse_read parts denotes.readWhole_eq, if_neg noPort]

theorem exists_reads (address : String) : ∃ result, Reads address result := by
  by_cases split : ∃ host text, Parts address host text
  · obtain ⟨host, text, parts⟩ := split
    by_cases number : ∃ n, Number.Denotes text.toList n
    · obtain ⟨n, denotes⟩ := number
      by_cases isPort : IsPort n
      · obtain ⟨port, rfl⟩ := Int.eq_ofNat_of_zero_le (Int.le_trans (by decide) isPort.1)
        exact ⟨_, .address parts denotes isPort⟩
      · exact ⟨_, .outOfRange parts denotes isPort⟩
    · exact ⟨_, .notANumber parts number⟩
  · exact ⟨_, .malformed split⟩

theorem parse_eq_iff (address : String) (result : Except ConfigError ProxyAddress) :
    parse address = result ↔ Reads address result := by
  refine ⟨?_, parse_eq_of_reads⟩
  rintro rfl
  obtain ⟨result, reads⟩ := exists_reads address
  rwa [parse_eq_of_reads reads]

/-! ### Addresses that are written -/

theorem parts_rendered {proxy : ProxyAddress} (named : proxy.host ≠ "") :
    Parts (proxy.host ++ ":" ++ toString proxy.port) proxy.host (toString proxy.port) where
  joined := rfl
  host_ne := named
  port_ne := by
    rw [Nat.toString_eq_repr, Nat.repr_eq_ofList_toDigits, ne_eq, ← String.toList_eq_nil_iff,
      String.toList_ofList]
    exact Number.decimal_ne_nil proxy.port
  lastColon := by
    rw [Nat.toString_eq_repr, Nat.repr_eq_ofList_toDigits, String.toList_ofList]
    intro colon
    exact absurd (Number.isDigit_of_mem_decimal colon) (by decide)

theorem parse_rendered {proxy : ProxyAddress} (named : proxy.host ≠ "") (port : IsPort proxy.port) :
    parse (proxy.host ++ ":" ++ toString proxy.port) = .ok proxy := by
  -- A port has at most five digits, far fewer than a numeral may have.
  have short : (Nat.toDigits 10 proxy.port).length ≤ Number.digitLimit := by
    refine Nat.le_trans ((Nat.length_toDigits_le_iff (k := 5) (by omega) (by omega)).mpr ?_)
      (by decide)
    have := port.2
    omega
  have read : Number.readWhole (toString proxy.port).toList = .ok (proxy.port : Int) := by
    rw [Nat.toString_eq_repr, Nat.repr_eq_ofList_toDigits, String.toList_ofList]
    exact (Number.denotes_decimal short).readWhole_eq
  rw [parse_read (parts_rendered named) read, if_pos port, Int.toNat_natCast]

/-- Proxy addresses are read exactly and round-trip. A text is an address exactly if it has a host and,
behind its last colon, a numeral that denotes a port; each other text is refused for the first fault
that applies. A host and a port, written with a colon between them as in the URL of a builder's
proxy, are read back. -/
theorem parse_exact :
    (∀ address result, parse address = result ↔ Reads address result) ∧
    ∀ proxy : ProxyAddress, proxy.host ≠ "" → IsPort proxy.port →
      ∃ text, HttpClientBuilder.proxyText proxy = "http://" ++ text ∧
        text = proxy.host ++ ":" ++ toString proxy.port ∧ parse text = .ok proxy := by
  refine ⟨parse_eq_iff, fun proxy named port => ?_⟩
  refine ⟨_, ?_, rfl, parse_rendered named port⟩
  rw [HttpClientBuilder.proxyText, String.append_assoc, String.append_assoc, String.append_assoc]

theorem parse_exact_bracketed :
    ∃ text, HttpClientBuilder.proxyText ⟨"[::1]", 8080⟩ = "http://" ++ text ∧
      text = "[::1]" ++ ":" ++ toString 8080 ∧ parse text = .ok ⟨"[::1]", 8080⟩ :=
  parse_exact.2 ⟨"[::1]", 8080⟩ (by decide) (by decide)

end ProxyAddress

end ClientWiring
