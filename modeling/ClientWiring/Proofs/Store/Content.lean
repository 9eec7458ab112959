import Mathlib.Data.List.Forall2
import ClientWiring.Store.Content
set_option autoImplicit false

/-! What is read of the content of a store, kind by kind. The libraries say what each part holds;
a store is made of these parts in their order, and the first part that they fail on decides. -/

namespace ClientWiring

section Traversal

variable {ε α β : Type} {f : α → Except ε β} {inputs : List α}

/-- What comes of inputs in their order: an output for each of them, or the first error. -/
inductive Traversed (f : α → Except ε β) (inputs : List α) : Except ε (List β) → Prop
  | all {outputs : List β}
      (each : List.Forall₂ (fun input output => f input = .ok output) inputs outputs) :
      Traversed f inputs (.ok outputs)
  | failed {earlier later : List α} {input : α} {e : ε}
      (order : inputs = earlier ++ input :: later)
      (passed : ∀ other ∈ earlier, ∃ output, f other = .ok output) (fails : f input = .error e) :
      Traversed f inputs (.error e)

theorem traversed_cons {input : α} {output : β} {outcome : Except ε (List β)}
    (reads : f input = .ok output) (traversed : Traversed f inputs outcome) :
    Traversed f (input :: inputs) (outcome.map (output :: ·)) := by
  cases traversed with
  | all each => exact .all (.cons reads each)
  | @failed earlier later other e order passed fails =>
      have passed' : ∀ other ∈ input :: earlier, ∃ output, f other = .ok output :=
        List.forall_mem_cons.mpr ⟨⟨output, reads⟩, passed⟩
      exact .failed (congrArg (input :: ·) order) passed' fails

theorem traversed_mapM (f : α → Except ε β) (inputs : List α) :
    Traversed f inputs (inputs.mapM f) := by
  induction inputs with
  | nil => exact .all .nil
  | cons input inputs ih =>
      rw [List.mapM_cons]
      cases reads : f input with
      | error e => exact .failed (List.nil_append _).symm (List.forall_mem_nil _) reads
      | ok output =>
          have extended := traversed_cons reads ih
          cases rest : inputs.mapM f <;> rwa [rest] at extended

theorem mapM_of_forall₂ {outputs : List β}
    (each : List.Forall₂ (fun input output => f input = .ok output) inputs outputs) :
    inputs.mapM f = .ok outputs := by
  induction each with
  | nil => rfl
  | cons reads _ ih =>
      rw [List.mapM_cons, reads, ih]
      rfl

theorem mapM_of_failed {earlier later : List α} {input : α} {e : ε}
    (passed : ∀ other ∈ earlier, ∃ output, f other = .ok output) (fails : f input = .error e) :
    (earlier ++ input :: later).mapM f = .error e := by
  induction earlier with
  | nil =>
      rw [List.nil_append, List.mapM_cons, fails]
      rfl
  | cons other earlier ih =>
      obtain ⟨⟨output, reads⟩, others⟩ := List.forall_mem_cons.mp passed
      rw [List.cons_append, List.mapM_cons, reads, ih others]
      rfl

theorem mapM_eq_iff {outcome : Except ε (List β)} :
    inputs.mapM f = outcome ↔ Traversed f inputs outcome := by
  constructor
  · rintro rfl
    exact traversed_mapM f inputs
  · intro traversed
    cases traversed with
    | all each => exact mapM_of_forall₂ each
    | failed order passed fails =>
        rw [order]
        exact mapM_of_failed passed fails

end Traversal

variable [StoreLibrary]

/-! ### Labelled blocks -/

namespace PemStore

/-- What a file of blocks holds: its first private key, if there is one, and its certificates. The
key is read first. -/
inductive Reads (content : List UInt8) (password : String) : Decoded KeyMaterial → Prop
  | keyless {certificates : List Certificate} (absent : keyBlock? content = none)
      (lists : StoreLibrary.certificatesOfPem content = .ok certificates) :
      Reads content password (.ok ⟨none, certificates⟩)
  | keyed {block : List UInt8} {key : PrivateKey} {certificates : List Certificate}
      (first : keyBlock? content = some block)
      (opens : StoreLibrary.keyOfPem block (blockPassword? password) = .ok key)
      (lists : StoreLibrary.certificatesOfPem content = .ok certificates) :
      Reads content password (.ok ⟨some key, certificates⟩)
  | keyRefused {block : List UInt8} {e : DecodeError} (first : keyBlock? content = some block)
      (refused : StoreLibrary.keyOfPem block (blockPassword? password) = .error e) :
      Reads content password (.error e)
  | certificatesRefused {e : DecodeError}
      (passed : ∀ block, keyBlock? content = some block →
        ∃ key, StoreLibrary.keyOfPem block (blockPassword? password) = .ok key)
      (refused : StoreLibrary.certificatesOfPem content = .error e) :
      Reads content password (.error e)

theorem pemKeys_eq_iff {content : List UInt8} {password : String} {outcome : Decoded KeyMaterial} :
    StoreType.pemKeys content password = outcome ↔ Reads content password outcome := by
  constructor
  · rintro rfl
    unfold StoreType.pemKeys
    cases first : keyBlock? content with
    | none =>
        have passed : ∀ block, keyBlock? content = some block →
            ∃ key, StoreLibrary.keyOfPem block (blockPassword? password) = .ok key := by
          intro block found
          cases first.symm.trans found
        cases lists : StoreLibrary.certificatesOfPem content with
        | error e => exact .certificatesRefused passed lists
        | ok certificates => exact .keyless first lists
    | some block =>
        dsimp only
        cases opens : StoreLibrary.keyOfPem block (blockPassword? password) with
        | error e => exact .keyRefused first opens
        | ok key =>
            have passed : ∀ other, keyBlock? content = some other →
                ∃ key, StoreLibrary.keyOfPem other (blockPassword? password) = .ok key := by
              intro other found
              cases first.symm.trans found
              exact ⟨key, opens⟩
            cases lists : StoreLibrary.certificatesOfPem content with
            | error e => exact .certificatesRefused passed lists
            | ok certificates => exact .keyed first opens lists
  · intro reads
    unfold StoreType.pemKeys
    cases reads with
    | keyless absent lists => rw [absent, lists]; rfl
    | keyed first opens lists =>
        rw [first]
        dsimp only
        rw [opens, lists]
        rfl
    | keyRefused first refused =>
        rw [first]
        dsimp only
        rw [refused]
        rfl
    | certificatesRefused passed refused =>
        rw [refused]
        cases first : keyBlock? content with
        | none => rfl
        | some block =>
            obtain ⟨key, opens⟩ := passed block first
            dsimp only
            rw [opens]
            rfl

end PemStore

/-! ### Entries under names -/

namespace JavaKey

inductive Reads : List JavaKey → Decoded KeyMaterial → Prop
  | none : Reads [] (.ok ⟨none, []⟩)
  | locked {entry : JavaKey} {later : List JavaKey} (closed : entry.unlocked = none) :
      Reads (entry :: later) (.error entry.locked)
  | keyRefused {entry : JavaKey} {later : List JavaKey} {der : List UInt8} {e : DecodeError}
      (opened : entry.unlocked = some der) (refused : StoreLibrary.keyOfDer der = .error e) :
      Reads (entry :: later) (.error e)
  | chainRefused {entry : JavaKey} {later : List JavaKey} {der : List UInt8} {key : PrivateKey}
      {e : DecodeError} (opened : entry.unlocked = some der)
      (decoded : StoreLibrary.keyOfDer der = .ok key)
      (chained : Traversed StoreLibrary.certificateOfDer entry.chain (.error e)) :
      Reads (entry :: later) (.error e)
  | first {entry : JavaKey} {later : List JavaKey} {der : List UInt8} {key : PrivateKey}
      {certificates : List Certificate} (opened : entry.unlocked = some der)
      (decoded : StoreLibrary.keyOfDer der = .ok key)
      (chained : Traversed StoreLibrary.certificateOfDer entry.chain (.ok certificates)) :
      Reads (entry :: later) (.ok ⟨some key, certificates⟩)

theorem firstKey_eq_iff {keys : List JavaKey} {outcome : Decoded KeyMaterial} :
    StoreType.firstKey keys = outcome ↔ Reads keys outcome := by
  constructor
  · rintro rfl
    cases keys with
    | nil => exact .none
    | cons entry later =>
        rw [StoreType.firstKey]
        cases opened : entry.unlocked with
        | none => exact .locked opened
        | some der =>
            dsimp only
            cases decoded : StoreLibrary.keyOfDer der with
            | error e => exact .keyRefused opened decoded
            | ok key =>
                cases chained : entry.chain.mapM StoreLibrary.certificateOfDer with
                | error e => exact .chainRefused opened decoded (mapM_eq_iff.mp chained)
                | ok certificates => exact .first opened decoded (mapM_eq_iff.mp chained)
  · intro reads
    cases reads with
    | none => rfl
    | locked closed => simp only [StoreType.firstKey, closed]
    | keyRefused opened refused =>
        simp only [StoreType.firstKey, opened, refused]
        rfl
    | chainRefused opened decoded chained | first opened decoded chained =>
        simp only [StoreType.firstKey, opened, decoded, mapM_eq_iff.mpr chained]
        rfl

end JavaKey

/-! ### Every kind -/

namespace StoreType

variable {type : StoreType} {content : List UInt8} {password : String}

/-- The private key and the certificates that a store of a kind holds under a password. In an
archive the certificate of the key comes before the others. -/
inductive Holds (content : List UInt8) (password : String) :
    StoreType → Decoded KeyMaterial → Prop
  | pem {outcome : Decoded KeyMaterial} (reads : PemStore.Reads content password outcome) :
      Holds content password .pem outcome
  | java {type : StoreType} {store : JavaStore} {outcome : Decoded KeyMaterial}
      (kind : type = .jks ∨ type = .jceks)
      (opens : StoreLibrary.javaStore content password = .ok store)
      (reads : JavaKey.Reads store.keys outcome) : Holds content password type outcome
  | javaRefused {type : StoreType} {e : DecodeError} (kind : type = .jks ∨ type = .jceks)
      (refused : StoreLibrary.javaStore content password = .error e) :
      Holds content password type (.error e)
  | pkcs12 {archive : Archive}
      (opens : StoreLibrary.archive content (Pem.octets password) = .ok archive) :
      Holds content password .pkcs12
        (.ok ⟨archive.privateKey, archive.certificate.toList ++ archive.additional⟩)
  | pkcs12Refused {e : DecodeError}
      (refused : StoreLibrary.archive content (Pem.octets password) = .error e) :
      Holds content password .pkcs12 (.error e)

inductive Trusts (content : List UInt8) (password : String) :
    StoreType → Decoded (List Certificate) → Prop
  | pem {outcome : Decoded (List Certificate)}
      (lists : StoreLibrary.certificatesOfPem content = outcome) :
      Trusts content password .pem outcome
  | java {type : StoreType} {store : JavaStore} {outcome : Decoded (List Certificate)}
      (kind : type = .jks ∨ type = .jceks)
      (opens : StoreLibrary.javaStore content password = .ok store)
      (reads : Traversed StoreLibrary.certificateOfDer store.certificates outcome) :
      Trusts content password type outcome
  | javaRefused {type : StoreType} {e : DecodeError} (kind : type = .jks ∨ type = .jceks)
      (refused : StoreLibrary.javaStore content password = .error e) :
      Trusts content password type (.error e)
  | pkcs12 {archive : Archive}
      (opens : StoreLibrary.archive content (Pem.octets password) = .ok archive) :
      Trusts content password .pkcs12
        (.ok (archive.certificate.toList ++ archive.additional))
  | pkcs12Refused {e : DecodeError}
      (refused : StoreLibrary.archive content (Pem.octets password) = .error e) :
      Trusts content password .pkcs12 (.error e)

theorem holds_java (kind : type = .jks ∨ type = .jceks) :
    type.Holds content password
      (StoreLibrary.javaStore content password >>= fun store => firstKey store.keys) := by
  cases opens : StoreLibrary.javaStore content password with
  | error e => exact .javaRefused kind opens
  | ok store => exact .java kind opens (JavaKey.firstKey_eq_iff.mp rfl)

theorem trusts_java (kind : type = .jks ∨ type = .jceks) :
    type.Trusts content password (StoreLibrary.javaStore content password >>= fun store =>
      store.certificates.mapM StoreLibrary.certificateOfDer) := by
  cases opens : StoreLibrary.javaStore content password with
  | error e => exact .javaRefused kind opens
  | ok store => exact .java kind opens (mapM_eq_iff.mp rfl)

theorem holds_keys (type : StoreType) (content : List UInt8) (password : String) :
    type.Holds content password (type.keys content password) := by
  cases type with
  | pem => exact .pem (PemStore.pemKeys_eq_iff.mp rfl)
  | jks => exact holds_java (.inl rfl)
  | jceks => exact holds_java (.inr rfl)
  | pkcs12 =>
      rw [keys]
      cases opens : StoreLibrary.archive content (Pem.octets password) with
      | error e => exact .pkcs12Refused opens
      | ok archive => exact .pkcs12 opens

theorem trusts_certificates (type : StoreType) (content : List UInt8) (password : String) :
    type.Trusts content password (type.certificates content password) := by
  cases type with
  | pem => exact .pem rfl
  | jks => exact trusts_java (.inl rfl)
  | jceks => exact trusts_java (.inr rfl)
  | pkcs12 =>
      rw [certificates]
      cases opens : StoreLibrary.archive content (Pem.octets password) with
      | error e => exact .pkcs12Refused opens
      | ok archive => exact .pkcs12 opens

theorem keys_java (kind : type = .jks ∨ type = .jceks) : type.keys content password =
    (StoreLibrary.javaStore content password >>= fun store => firstKey store.keys) := by
  rcases kind with rfl | rfl <;> rfl

theorem certificates_java (kind : type = .jks ∨ type = .jceks) :
    type.certificates content password =
      (StoreLibrary.javaStore content password >>= fun store =>
        store.certificates.mapM StoreLibrary.certificateOfDer) := by
  rcases kind with rfl | rfl <;> rfl

theorem keys_eq_iff {outcome : Decoded KeyMaterial} :
    type.keys content password = outcome ↔ type.Holds content password outcome := by
  constructor
  · rintro rfl
    exact holds_keys type content password
  · intro holds
    cases holds with
    | pem reads => exact PemStore.pemKeys_eq_iff.mpr reads
    | java kind opens reads =>
        rw [keys_java kind, opens]
        exact JavaKey.firstKey_eq_iff.mpr reads
    | javaRefused kind refused =>
        rw [keys_java kind, refused]
        rfl
    | pkcs12 opens =>
        rw [keys, opens]
        rfl
    | pkcs12Refused refused =>
        rw [keys, refused]
        rfl

theorem certificates_eq_iff {outcome : Decoded (List Certificate)} :
    type.certificates content password = outcome ↔ type.Trusts content password outcome := by
  constructor
  · rintro rfl
    exact trusts_certificates type content password
  · intro trusts
    cases trusts with
    | pem lists => exact lists
    | java kind opens reads =>
        rw [certificates_java kind, opens]
        exact mapM_eq_iff.mpr reads
    | javaRefused kind refused =>
        rw [certificates_java kind, refused]
        rfl
    | pkcs12 opens =>
        rw [certificates, opens]
        rfl
    | pkcs12Refused refused =>
        rw [certificates, refused]
        rfl

theorem Trusts.unique {outcome outcome' : Decoded (List Certificate)}
    (trusts : type.Trusts content password outcome)
    (again : type.Trusts content password outcome') : outcome = outcome' :=
  (certificates_eq_iff.mpr trusts).symm.trans (certificates_eq_iff.mpr again)

theorem Holds.unique {outcome outcome' : Decoded KeyMaterial}
    (holds : type.Holds content password outcome) (again : type.Holds content password outcome') :
    outcome = outcome' :=
  (keys_eq_iff.mpr holds).symm.trans (keys_eq_iff.mpr again)

end StoreType

/-! ### Kinds of failure -/

/-- The readers of certificates and of whole stores fail with errors of some kinds alone. -/
structure StoreLibrary.FailsWith (kinds : List ErrorKind) : Prop where
  certificatesOfPem : ∀ content e, certificatesOfPem content = .error e → e.kind ∈ kinds
  certificateOfDer : ∀ der e, certificateOfDer der = .error e → e.kind ∈ kinds
  archive : ∀ content password e, archive content password = .error e → e.kind ∈ kinds
  javaStore : ∀ content password e, javaStore content password = .error e → e.kind ∈ kinds

structure StoreLibrary.KeysFailWith (kinds : List ErrorKind) : Prop where
  keyOfPem : ∀ block password e, keyOfPem block password = .error e → e.kind ∈ kinds
  keyOfDer : ∀ der e, keyOfDer der = .error e → e.kind ∈ kinds

section Kinds

variable {kinds : List ErrorKind} (fails : StoreLibrary.FailsWith kinds) {type : StoreType}
  {content : List UInt8} {password : String} {e : DecodeError}

include fails

theorem kind_mem_of_traversed {encoded : List (List UInt8)}
    (traversed : Traversed StoreLibrary.certificateOfDer encoded (.error e)) : e.kind ∈ kinds := by
  cases traversed with
  | failed order passed refused => exact fails.certificateOfDer _ _ refused

theorem StoreType.Trusts.kind_mem (trusts : type.Trusts content password (.error e)) :
    e.kind ∈ kinds := by
  cases trusts with
  | pem lists => exact fails.certificatesOfPem _ _ lists
  | java kind opens reads => exact kind_mem_of_traversed fails reads
  | javaRefused kind refused => exact fails.javaStore _ _ _ refused
  | pkcs12Refused refused => exact fails.archive _ _ _ refused

variable (keysFail : StoreLibrary.KeysFailWith kinds)

include keysFail

theorem PemStore.Reads.kind_mem (reads : PemStore.Reads content password (.error e)) :
    e.kind ∈ kinds := by
  cases reads with
  | keyRefused first refused => exact keysFail.keyOfPem _ _ _ refused
  | certificatesRefused passed refused => exact fails.certificatesOfPem _ _ refused

/-- A key that stays locked is a bad value. -/
theorem JavaKey.Reads.kind_mem {keys : List JavaKey} (value : .value ∈ kinds)
    (reads : JavaKey.Reads keys (.error e)) : e.kind ∈ kinds := by
  cases reads with
  | locked closed => exact value
  | keyRefused opened refused => exact keysFail.keyOfDer _ _ refused
  | chainRefused opened decoded chained => exact kind_mem_of_traversed fails chained

theorem StoreType.Holds.kind_mem (value : .value ∈ kinds)
    (holds : type.Holds content password (.error e)) : e.kind ∈ kinds := by
  cases holds with
  | pem reads => exact PemStore.Reads.kind_mem fails keysFail reads
  | java kind opens reads => exact JavaKey.Reads.kind_mem fails keysFail value reads
  | javaRefused kind refused => exact fails.javaStore _ _ _ refused
  | pkcs12Refused refused => exact fails.archive _ _ _ refused

end Kinds

end ClientWiring
