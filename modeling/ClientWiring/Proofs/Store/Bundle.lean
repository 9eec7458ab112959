import ClientWiring.Proofs.Formats.Pem
import ClientWiring.Proofs.Store.KeyBlock
import ClientWiring.Proofs.Store.Load
set_option autoImplicit false

/-! Stores that are written as labelled blocks are loaded again, by a library that reads a single
block back and all certificates of a file in order. The block of the private key is cut out of the
file, wherever it stands among those of the certificates. -/

namespace ClientWiring

namespace PemStore

open Pem

/-! ### A key among certificates -/

theorem octets_join (certificates : List Certificate) :
    octets (String.join (certificates.map Certificate.pem)) =
      written (certificates.map Certificate.block) := by
  induction certificates with
  | nil => exact octets_ascii (by decide)
  | cons certificate certificates ih =>
      rw [List.map_cons, String.join_cons, octets_append, ih]
      rfl

theorem written_append (blocks others : List Block) :
    written (blocks ++ others) = written blocks ++ written others :=
  List.flatMap_append

def bundled (key : PrivateKey) (before after : List Certificate) : List Block :=
  before.map Certificate.block ++ key.block :: after.map Certificate.block

structure Named (block : Block) : Prop where
  labelled : block.label ≠ ""
  letters : IsLabel block.label

def isCertificate (block : Block) : Bool :=
  block.label == "CERTIFICATE"

theorem named_certificate (certificate : Certificate) : Named certificate.block where
  labelled := by
    change "CERTIFICATE" ≠ ""
    decide
  letters := isLabel_certificate

theorem named_privateKey (key : PrivateKey) : Named key.block where
  labelled := by
    change "PRIVATE KEY" ≠ ""
    decide
  letters := isLabel_privateKey

theorem named_certificates (certificates : List Certificate) :
    ∀ block ∈ certificates.map Certificate.block, Named block := by
  intro block member
  obtain ⟨certificate, -, rfl⟩ := List.mem_map.mp member
  exact named_certificate certificate

theorem filter_certificates (certificates : List Certificate) :
    (certificates.map Certificate.block).filter isCertificate =
      certificates.map Certificate.block := by
  rw [List.filter_eq_self]
  intro block member
  obtain ⟨certificate, -, rfl⟩ := List.mem_map.mp member
  exact beq_self_eq_true _

section Bundled

variable (key : PrivateKey) (before after : List Certificate)

theorem named_bundled : ∀ block ∈ bundled key before after, Named block := by
  intro block member
  rcases List.mem_append.mp member with earlier | later
  · exact named_certificates before block earlier
  · rcases List.mem_cons.mp later with rfl | later
    · exact named_privateKey key
    · exact named_certificates after block later

theorem filter_bundled : (bundled key before after).filter isCertificate =
    (before ++ after).map Certificate.block := by
  have foreign : isCertificate key.block = false := by
    change ("PRIVATE KEY" == "CERTIFICATE") = false
    decide
  rw [bundled, List.filter_append, List.filter_cons_of_neg (by rw [foreign]; exact nofun),
    filter_certificates, filter_certificates, List.map_append]

theorem keyBlock?_bundled :
    keyBlock? (written (bundled key before after)) = some key.block.armor := by
  have unkeyed : (octets "PRIVATE KEY").isSuffixOf (octets "CERTIFICATE") = false := by
    rw [octets_ascii (by decide), octets_ascii (by decide)]
    decide
  have keyed : (octets "PRIVATE KEY").isSuffixOf (octets "PRIVATE KEY") = true := by
    rw [octets_ascii (by decide)]
    decide
  induction before with
  | nil =>
      rw [bundled, List.map_nil, List.nil_append, written_cons]
      exact keyBlock?_key key.block isLabel_privateKey keyed _
  | cons certificate before ih =>
      rw [bundled, List.map_cons, List.cons_append, written_cons,
        keyBlock?_other certificate.block isLabel_certificate unkeyed]
      exact ih

end Bundled

end PemStore

/-! ### What a library is relied on for -/

section Library

variable [StoreLibrary]

def Certificate.ReadsBack (certificate : Certificate) : Prop :=
  StoreLibrary.certificatesOfPem (Pem.octets certificate.pem) = .ok [certificate]

def PrivateKey.ReadsBack (key : PrivateKey) : Prop :=
  StoreLibrary.keyOfPem (Pem.octets key.pem) none = .ok key

/-- A library that reads blocks as they are written: all certificates of a file in their order, past
any other blocks, and a key with or without the end of its last line. -/
structure StoreLibrary.ReadsBlocks : Prop where
  certificatesOfPem : ∀ (blocks : List Pem.Block) (certificates : List Certificate),
    (∀ block ∈ blocks, PemStore.Named block) →
      blocks.filter PemStore.isCertificate = certificates.map Certificate.block →
        (∀ certificate ∈ certificates, certificate.ReadsBack) → certificates ≠ [] →
          StoreLibrary.certificatesOfPem (Pem.written blocks) = .ok certificates
  keyOfPem : ∀ key : PrivateKey, key.ReadsBack →
    StoreLibrary.keyOfPem key.block.armor none = .ok key

/-- Among the certificates, wherever it stands, the key is found, and the certificates keep their
order. -/
theorem PemStore.reads_bundled (library : StoreLibrary.ReadsBlocks) {key : PrivateKey}
    {before after : List Certificate} (keyBack : key.ReadsBack)
    (back : ∀ certificate ∈ before ++ after, certificate.ReadsBack)
    (nonempty : before ++ after ≠ []) :
    Reads (Pem.written (bundled key before after)) "" (.ok ⟨some key, before ++ after⟩) := by
  have opens : StoreLibrary.keyOfPem key.block.armor (blockPassword? "") = .ok key :=
    library.keyOfPem key keyBack
  have lists := library.certificatesOfPem _ _ (named_bundled key before after)
    (filter_bundled key before after) back nonempty
  exact .keyed (keyBlock?_bundled key before after) opens lists

structure KeyStore.ReadsBack (store : KeyStore) : Prop where
  privateKey : store.privateKey.ReadsBack
  certificates : ∀ certificate ∈ store.certificates, certificate.ReadsBack

end Library

/-- A key store as text, with the private key behind the first certificates. -/
def KeyStore.bundle (store : KeyStore) (position : Nat) : String :=
  String.join ((store.certificates.take position).map Certificate.pem) ++ store.privateKey.pem ++
    String.join ((store.certificates.drop position).map Certificate.pem)

theorem KeyStore.octets_bundle (store : KeyStore) (position : Nat) :
    Pem.octets (store.bundle position) =
      Pem.written (PemStore.bundled store.privateKey (store.certificates.take position)
        (store.certificates.drop position)) := by
  rw [bundle, Pem.octets_append, Pem.octets_append, PemStore.octets_join, PemStore.octets_join,
    PemStore.bundled, PemStore.written_append, List.append_assoc]
  rfl

theorem KeyStore.bundle_zero (store : KeyStore) :
    store.bundle 0 = store.privateKey.pem ++ store.certificatePem := by
  rw [bundle, List.take_zero, List.map_nil, String.join_nil, String.empty_append, List.drop_zero]
  rfl

theorem KeyStore.bundle_length (store : KeyStore) :
    store.bundle store.certificates.length = store.certificatePem ++ store.privateKey.pem := by
  rw [bundle, List.take_length, List.drop_length, List.map_nil, String.join_nil,
    String.append_empty]
  rfl

namespace Surroundings

variable [StoreLibrary] {around : Surroundings} {location : String} {type anchor : Option String}

theorem loadKeyStore_bundle (library : StoreLibrary.ReadsBlocks)
    (pem : StoreType.ofSetting type = .ok .pem) {store : KeyStore} (back : store.ReadsBack)
    (position : Nat)
    (located : around.locate location anchor = .ok (Pem.octets (store.bundle position))) :
    around.loadKeyStore ⟨location, some "", type⟩ anchor = .ok store := by
  have whole : store.certificates.take position ++ store.certificates.drop position =
      store.certificates := List.take_append_drop position store.certificates
  have certificates : ∀ certificate ∈
      store.certificates.take position ++ store.certificates.drop position,
        certificate.ReadsBack := by
    rw [whole]
    exact back.certificates
  have reads := PemStore.reads_bundled library back.privateKey certificates
    (by rw [whole]; exact List.cons_ne_nil _ _)
  rw [whole, ← store.octets_bundle] at reads
  exact loadKeyStore_eq_ok_iff.mpr
    ⟨.pem, "", _, reaches_iff.mpr ⟨pem, rfl, located⟩, .pem reads⟩

theorem loadTrustStore_written (library : StoreLibrary.ReadsBlocks)
    (pem : StoreType.ofSetting type = .ok .pem) {store : TrustStore}
    (back : ∀ certificate ∈ store.certificates, certificate.ReadsBack)
    (nonempty : store.certificates ≠ []) (password : String)
    (located : around.locate location anchor = .ok (Pem.octets store.pem)) :
    around.loadTrustStore ⟨location, some password, type⟩ anchor = .ok store := by
  have lists := library.certificatesOfPem _ store.certificates
    (PemStore.named_certificates store.certificates)
    (PemStore.filter_certificates store.certificates) back nonempty
  rw [← PemStore.octets_join] at lists
  exact loadTrustStore_eq_ok_iff.mpr
    ⟨.pem, password, _, reaches_iff.mpr ⟨pem, rfl, located⟩, .pem lists⟩

/-- A store that is written as blocks is the store that is loaded from them: a key store with its
key before, after or between its certificates, and a trust store if it has a certificate. -/
theorem load_written (library : StoreLibrary.ReadsBlocks) (around : Surroundings)
    (location : String) (type anchor : Option String)
    (pem : StoreType.ofSetting type = .ok .pem) :
    (∀ (store : KeyStore) (position : Nat), store.ReadsBack →
      around.locate location anchor = .ok (Pem.octets (store.bundle position)) →
        around.loadKeyStore ⟨location, some "", type⟩ anchor = .ok store) ∧
    (∀ store : KeyStore, store.ReadsBack →
      around.locate location anchor =
          .ok (Pem.octets (store.privateKey.pem ++ store.certificatePem)) ∨
        around.locate location anchor =
          .ok (Pem.octets (store.certificatePem ++ store.privateKey.pem)) →
        around.loadKeyStore ⟨location, some "", type⟩ anchor = .ok store) ∧
    (∀ (store : TrustStore) (password : String),
      (∀ certificate ∈ store.certificates, certificate.ReadsBack) → store.certificates ≠ [] →
        around.locate location anchor = .ok (Pem.octets store.pem) →
          around.loadTrustStore ⟨location, some password, type⟩ anchor = .ok store) := by
  refine ⟨fun store position back located =>
    loadKeyStore_bundle library pem back position located, ?_,
    fun store password back nonempty located =>
      loadTrustStore_written library pem back nonempty password located⟩
  rintro store back (located | located)
  · rw [← store.bundle_zero] at located
    exact loadKeyStore_bundle library pem back 0 located
  · rw [← store.bundle_length] at located
    exact loadKeyStore_bundle library pem back store.certificates.length located

end Surroundings

namespace Sample

open scoped Sample
open Crypto (bytesOfNat)

/-! ### A chain of two certificates -/

def leafKey : PrivateKey where
  der := [
      0x308187020100301306072A8648CE3D020106082A8648CE3D030107046D306B02,
      0x0101042020EA791174A03416E21E95F5011E0F5B02FDBD8B835F22B2AE6C4FF8,
      0x842EA636A14403420004D9A8ADB4E65FCFDD5E73B36D916E38C2258DF64F912F,
      0x4A0154FC29A15B58E16C5397F7666727521E9661B34BB11E87D5A08B17762F15
    ].flatMap (bytesOfNat 32) ++ bytesOfNat 10 0x02B266F3AD981009704B

def leafCertificate : Certificate where
  der := [
      0x308201023081AA020102300A06082A8648CE3D040302300D310B300906035504,
      0x030C026361301E170D3236313132303131343034395A170D3336313131363131,
      0x343034395A300F310D300B06035504030C046C6561663059301306072A8648CE,
      0x3D020106082A8648CE3D03010703420004D9A8ADB4E65FCFDD5E73B36D916E38,
      0xC2258DF64F912F4A0154FC29A15B58E16C5397F7666727521E9661B34BB11E87,
      0xD5A08B17762F1502B266F3AD981009704B300A06082A8648CE3D040302034700,
      0x304402204533FE6369D9EE7A5C39DA74D1D2CD5E3BFE75F9A23ADAEC562EE7ED,
      0xB8C76BCA022038E2C0A0C8824ABAD2963D7522AAED0248E57A911945FB451CBC
    ].flatMap (bytesOfNat 32) ++ bytesOfNat 6 0x8D1598EF5C79

def upperCertificate : Certificate where
  der := [
      0x308201013081A8020101300A06082A8648CE3D040302300D310B300906035504,
      0x030C026361301E170D3236313132303131343034395A170D3336313131373131,
      0x343034395A300D310B300906035504030C0263613059301306072A8648CE3D02,
      0x0106082A8648CE3D03010703420004DCF7D6C2CB6E6415E4EB8357B66CEEA0C6,
      0x34A1248D014C2D09F596A3DD80607555A12FCC26FE1E902409D4E57FC6D819B1,
      0x7EEBC6ED536869B2F2D9C67BD12D1F300A06082A8648CE3D0403020348003045,
      0x0220451C3429A11A6394095D14E6E167639F7CE19A4773EB3064A763E776128A,
      0x1058022100C77C2B889A6944AB8592F81786B441FF7E0944F2776D156F2F5C82
    ].flatMap (bytesOfNat 32) ++ bytesOfNat 5 0xE4B2EDF34E

def chainedStore : KeyStore := ⟨leafKey, leafCertificate, [upperCertificate]⟩

def trustingStore : TrustStore := ⟨[upperCertificate, leafCertificate]⟩

theorem sound_of_named {block : Pem.Block} (named : PemStore.Named block) : block.Sound where
  labelled := named.labelled
  unhyphened := PemStore.hyphen_not_mem_label named.letters

theorem orUnreadable_eq_ok_iff {α : Type} {result : Option α} {a : α} :
    orUnreadable result = .ok a ↔ result = some a := by
  cases result <;> simp [orUnreadable]

theorem isCertificate_of_named {block : Pem.Block} (named : PemStore.Named block) :
    (block.label == "CERTIFICATE" || block.label == "X509 CERTIFICATE") =
      PemStore.isCertificate block := by
  have other : block.label ≠ "X509 CERTIFICATE" := by
    intro same
    have letters := named.letters
    rw [same, PemStore.IsLabel, Pem.octets_ascii (by decide), ← List.all_eq_true] at letters
    revert letters
    decide
  rw [beq_eq_false_iff_ne.mpr other, Bool.or_false, PemStore.isCertificate]

theorem certificates?_written {blocks : List Pem.Block}
    (named : ∀ block ∈ blocks, PemStore.Named block) :
    PemStore.certificates? (Pem.written blocks) =
      ((blocks.filter PemStore.isCertificate).mapM
        fun block => Certificate.ofDer? block.content).bind
          fun certificates => if certificates = [] then none else some certificates := by
  have read := Pem.readBlocks_written fun block member => sound_of_named (named block member)
  have kept := List.filter_congr fun block member => isCertificate_of_named (named block member)
  simp only [PemStore.certificates?, read, kept, Option.bind_eq_bind, Option.bind_some,
    Option.pure_def]

theorem readsBack_iff {certificate : Certificate} :
    certificate.ReadsBack ↔ Certificate.ofDer? certificate.der = some certificate := by
  have own : Pem.octets certificate.pem = Pem.written [certificate.block] :=
    (List.append_nil _).symm
  have named := PemStore.named_certificates [certificate]
  have kept := PemStore.filter_certificates [certificate]
  rw [List.map_singleton] at named kept
  have single := certificates?_written named
  rw [kept, List.mapM_cons, List.mapM_nil] at single
  change orUnreadable (PemStore.certificates? (Pem.octets certificate.pem)) = _ ↔
    Certificate.ofDer? certificate.block.content = _
  rw [orUnreadable_eq_ok_iff, own, single]
  cases Certificate.ofDer? certificate.block.content with
  | none => simp
  | some other => simp

theorem mapM_ofDer? {certificates : List Certificate}
    (back : ∀ certificate ∈ certificates, certificate.ReadsBack) :
    (certificates.map Certificate.block).mapM (fun block => Certificate.ofDer? block.content) =
      some certificates := by
  induction certificates with
  | nil => rfl
  | cons certificate certificates ih =>
      rw [List.forall_mem_cons] at back
      have first : Certificate.ofDer? certificate.block.content = some certificate :=
        readsBack_iff.mp back.1
      rw [List.map_cons, List.mapM_cons, first, ih back.2]
      rfl

/-- The key of a block is read from its content, whether its last line is ended or not. -/
theorem key?_written (key : PrivateKey) :
    PemStore.key? (Pem.octets key.pem) none = PrivateKey.ofDer? key.der ∧
      PemStore.key? key.block.armor none = PrivateKey.ofDer? key.der := by
  have sound := sound_of_named (PemStore.named_privateKey key)
  have framed {bytes : List UInt8} (found : Pem.frames bytes = [key.block.frame]) :
      PemStore.key? bytes none = PrivateKey.ofDer? key.der := by
    have label : key.block.label = "PRIVATE KEY" := rfl
    simp only [PemStore.key?, found, List.head?_cons, Pem.Block.block?_frame sound, label,
      Option.bind_eq_bind, Option.bind_some]
    rfl
  have own : Pem.octets key.pem = key.block.armor ++ [Pem.lineFeed] := key.block.octets_render
  constructor
  · apply framed
    rw [own, Pem.frames_armor sound]
    exact congrArg _ Pem.frames_nil
  · apply framed
    have found := Pem.frames_armor sound []
    rwa [List.append_nil, List.dropWhile_nil, Pem.frames_nil] at found

theorem privateKey_readsBack_iff {key : PrivateKey} :
    key.ReadsBack ↔ PrivateKey.ofDer? key.der = some key := by
  change orUnreadable (PemStore.key? (Pem.octets key.pem) none) = _ ↔ _
  rw [orUnreadable_eq_ok_iff, (key?_written key).1]

theorem readsBlocks : StoreLibrary.ReadsBlocks where
  certificatesOfPem blocks certificates named kept back nonempty := by
    apply orUnreadable_eq_ok_iff.mpr
    rw [certificates?_written named, kept, mapM_ofDer? back]
    exact if_neg nonempty
  keyOfPem key back := by
    apply orUnreadable_eq_ok_iff.mpr
    rw [(key?_written key).2]
    exact privateKey_readsBack_iff.mp back

theorem locate_slash_k (content : List UInt8) (library : Library) :
    (Surroundings.mk ⟨[(["k"], .file content)], ["home"]⟩ [] library).locate "/k" none =
      .ok content := by
  have found : FileTree.lookup ⟨[(["k"], .file content)], ["home"]⟩ [] "/k" =
      .entry ["k"] (.file content) := by
    rw [FileTree.lookup_slash_k]
    rfl
  have unmarked : Surroundings.afterMark? Surroundings.classPathMark "/k" = none := by
    decide
  have bare : (Surroundings.afterMark? Surroundings.fileMark "/k").getD "/k" = "/k" := by
    decide
  simp only [Surroundings.locate, unmarked, bare, Surroundings.fileContent, found,
    Surroundings.contentAt, FileEntry.content?]

theorem chainedStore_readsBack : chainedStore.ReadsBack where
  privateKey := privateKey_readsBack_iff.mpr (by decide +kernel)
  certificates certificate member := by
    rw [readsBack_iff]
    revert certificate
    decide +kernel

end Sample

open scoped Sample in
theorem Surroundings.load_written_chain :
    let bundled : Surroundings :=
      ⟨⟨[(["k"], .file (Pem.octets (Sample.chainedStore.bundle 1)))], ["home"]⟩, [], Sample.library⟩
    let trusting : Surroundings :=
      ⟨⟨[(["k"], .file (Pem.octets Sample.trustingStore.pem))], []⟩, [], Sample.library⟩
    StoreLibrary.ReadsBlocks ∧ Sample.chainedStore.ReadsBack ∧
      bundled.locate "/k" none = .ok (Pem.octets (Sample.chainedStore.bundle 1)) ∧
      bundled.loadKeyStore ⟨"/k", some "", some "pem"⟩ none = .ok Sample.chainedStore ∧
      trusting.locate "k" none = .ok (Pem.octets Sample.trustingStore.pem) ∧
      trusting.loadTrustStore ⟨"k", some "pw", some "pem"⟩ none = .ok Sample.trustingStore := by
  intro bundled trusting
  have pem : StoreType.ofSetting (some "pem") = .ok .pem := by decide
  have bundle : bundled.locate "/k" none = .ok (Pem.octets (Sample.chainedStore.bundle 1)) :=
    Sample.locate_slash_k _ Sample.library
  have trust := Sample.locate_k (Pem.octets Sample.trustingStore.pem) Sample.library
  have keys := (load_written Sample.readsBlocks bundled "/k" (some "pem") none pem).1
    Sample.chainedStore 1 Sample.chainedStore_readsBack bundle
  have back : ∀ certificate ∈ Sample.trustingStore.certificates, certificate.ReadsBack := by
    intro certificate member
    apply Sample.chainedStore_readsBack.certificates
    simpa [Sample.trustingStore, Sample.chainedStore, KeyStore.certificates, or_comm] using member
  have trusted := (load_written Sample.readsBlocks trusting "k" (some "pem") none pem).2.2
    Sample.trustingStore "pw" back (List.cons_ne_nil _ _) trust
  exact ⟨Sample.readsBlocks, Sample.chainedStore_readsBack, bundle, keys, trust, trusted⟩

end ClientWiring
