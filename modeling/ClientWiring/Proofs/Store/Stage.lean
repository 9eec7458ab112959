import ClientWiring.Proofs.Files.Location
import ClientWiring.Proofs.Store.Content
import ClientWiring.Store.Load
set_option autoImplicit false

/-! The stages of loading a store and their faults. Those for the kind, the password and the location
are independent of each other; content is looked at once these have passed, and the first stage that
has a fault decides. -/

namespace ClientWiring

inductive StoreUse where
  | trust
  | key
  deriving DecidableEq

inductive LoadStage where
  | type
  | password
  | location
  | content
  | material
  deriving DecidableEq

namespace LoadStage

variable {fault : LoadStage → StoreError → Prop} {stage : LoadStage} {stages : List LoadStage}
  {e : StoreError}

end LoadStage

namespace StoreUse

def stages : StoreUse → List LoadStage
  | trust => [.type, .password, .location, .content]
  | key => [.type, .password, .location, .content, .material]

def noPassword : StoreUse → ConfigError
  | trust => .noTrustStorePassword
  | key => .noKeyStorePassword

def unreadable (location : String) : StoreUse → ConfigError
  | trust => .trustStoreUnreadable location
  | key => .keyStoreUnreadable location

def refusedKinds : StoreUse → List ErrorKind
  | trust => [.value, .keystore]
  | key => [.value, .type, .keystore]

def Fails [StoreLibrary] (type : StoreType) (content : List UInt8) (password : String)
    (cause : DecodeError) : StoreUse → Prop
  | trust => type.Trusts content password (.error cause)
  | key => type.Holds content password (.error cause)

theorem refusesTrustStore_iff {kind : ErrorKind} :
    kind.refusesTrustStore = true ↔ kind ∈ trust.refusedKinds := by
  cases kind <;> decide

theorem refusesKeyStore_iff {kind : ErrorKind} :
    kind.refusesKeyStore = true ↔ kind ∈ key.refusedKinds := by
  cases kind <;> decide

end StoreUse

section Outcomes

variable [StoreLibrary] {type : StoreType} {content : List UInt8} {password : String}

/-- On what a use reads the libraries fail with errors that mean a refusal, and no others. -/
def StoreUse.Documented : StoreUse → Prop
  | trust => StoreLibrary.FailsWith trust.refusedKinds
  | key => StoreLibrary.FailsWith key.refusedKinds ∧ StoreLibrary.KeysFailWith key.refusedKinds

theorem StoreUse.Fails.kind_mem {use : StoreUse} {e : DecodeError} (documented : use.Documented)
    (fails : use.Fails type content password e) : e.kind ∈ use.refusedKinds := by
  cases use with
  | trust => exact StoreType.Trusts.kind_mem documented fails
  | key => exact StoreType.Holds.kind_mem documented.1 documented.2 (by decide) fails

theorem StoreUse.Fails.unique {use : StoreUse} {cause cause' : DecodeError}
    (fails : use.Fails type content password cause)
    (again : use.Fails type content password cause') : cause = cause' := by
  cases use with
  | trust => exact Except.error.inj (StoreType.Trusts.unique fails again)
  | key => exact Except.error.inj (StoreType.Holds.unique fails again)

theorem StoreUse.fails_or_trusts (type : StoreType) (content : List UInt8) (password : String) :
    (∃ cause, trust.Fails type content password cause) ∨
      ∃ certificates, type.Trusts content password (.ok certificates) := by
  cases decoded : type.certificates content password with
  | error cause => exact .inl ⟨cause, StoreType.certificates_eq_iff.mp decoded⟩
  | ok certificates => exact .inr ⟨certificates, StoreType.certificates_eq_iff.mp decoded⟩

theorem StoreUse.fails_or_holds (type : StoreType) (content : List UInt8) (password : String) :
    (∃ cause, key.Fails type content password cause) ∨
      ∃ material, type.Holds content password (.ok material) := by
  cases decoded : type.keys content password with
  | error cause => exact .inl ⟨cause, StoreType.keys_eq_iff.mp decoded⟩
  | ok material => exact .inr ⟨material, StoreType.keys_eq_iff.mp decoded⟩

end Outcomes

namespace Surroundings

variable {around : Surroundings} {settings : StoreSettings} {anchor : Option String}
  {type type' : StoreType} {password password' : String} {content content' : List UInt8}

structure Reaches (around : Surroundings) (settings : StoreSettings) (anchor : Option String)
    (type : StoreType) (password : String) (content : List UInt8) : Prop where
  supported : StoreType.ofSetting settings.type = .ok type
  given : settings.password = some password
  located : (around.searchFor settings.location anchor).Ends around.tree (.ok content)

theorem reaches_iff : around.Reaches settings anchor type password content ↔
    StoreType.ofSetting settings.type = .ok type ∧ settings.password = some password ∧
      around.locate settings.location anchor = .ok content := by
  rw [locate_eq, Search.outcome_eq_iff]
  exact ⟨fun ⟨supported, given, located⟩ => ⟨supported, given, located⟩,
    fun ⟨supported, given, located⟩ => ⟨supported, given, located⟩⟩

theorem openStore_eq_ok_iff {noPassword : ConfigError} :
    around.openStore settings anchor noPassword = .ok (type, password, content) ↔
      around.Reaches settings anchor type password content := by
  rw [reaches_iff, openStore]
  cases StoreType.ofSetting settings.type with
  | error error => simp [configFault]
  | ok known =>
      cases settings.password with
      | none => simp [configFault]
      | some given =>
          cases around.locate settings.location anchor with
          | error cause => simp
          | ok found => simp

theorem unopened_or_reaches (around : Surroundings) (settings : StoreSettings)
    (anchor : Option String) (noPassword : ConfigError) :
    (∃ cause, around.openStore settings anchor noPassword = .error cause) ∨
      ∃ type password content, around.Reaches settings anchor type password content := by
  cases opened : around.openStore settings anchor noPassword with
  | error cause => exact .inl ⟨cause, rfl⟩
  | ok opening =>
      obtain ⟨type, password, content⟩ := opening
      exact .inr ⟨type, password, content, openStore_eq_ok_iff.mp opened⟩

theorem Reaches.same (reaches : around.Reaches settings anchor type password content)
    (again : around.Reaches settings anchor type' password' content') :
    type = type' ∧ password = password' ∧ content = content' := by
  obtain ⟨kind, given, located⟩ := reaches_iff.mp reaches
  obtain ⟨kind', given', located'⟩ := reaches_iff.mp again
  cases kind.symm.trans kind'
  cases given.symm.trans given'
  cases located.symm.trans located'
  exact ⟨rfl, rfl, rfl⟩

variable [StoreLibrary] {use : StoreUse} {e : StoreError} {cause : DecodeError}

def contentError (use : StoreUse) (location : String) (cause : DecodeError) : StoreError :=
  if cause.kind ∈ use.refusedKinds then .config (use.unreadable location)
  else .thrown cause.thrown

end Surroundings

end ClientWiring
