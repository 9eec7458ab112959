import ClientWiring.Class.Sample
import ClientWiring.Formats.Library
import ClientWiring.Proofs.Store.Stage
set_option autoImplicit false

/-! Loading a store fails with the fault of the first stage that has one, and otherwise gives what the
content of the store holds. -/

namespace ClientWiring

namespace KeyMaterial

def store? (material : KeyMaterial) : Option KeyStore :=
  match material with
  | ⟨some key, certificate :: chain⟩ => some ⟨key, certificate, chain⟩
  | _ => none

theorem store?_eq_some_iff {material : KeyMaterial} {store : KeyStore} :
    material.store? = some store ↔ material = ⟨some store.privateKey, store.certificates⟩ := by
  obtain ⟨key, certificate, chain⟩ := store
  rcases material with ⟨_ | key, _ | ⟨certificate, chain⟩⟩ <;> simp [store?, KeyStore.certificates]

end KeyMaterial

namespace Surroundings

variable {around : Surroundings} {settings : StoreSettings} {anchor : Option String}
  {type : StoreType} {password : String} {content : List UInt8}

variable [StoreLibrary] {e : StoreError} {cause : DecodeError}

/-! ### Trust stores -/

theorem loadTrustStore_of_unopened {cause : StoreError}
    (unopened : around.openStore settings anchor .noTrustStorePassword = .error cause) :
    around.loadTrustStore settings anchor = .error cause := by
  rw [loadTrustStore, unopened]
  rfl

theorem loadTrustStore_of_fails (reaches : around.Reaches settings anchor type password content)
    (fails : StoreUse.trust.Fails type content password cause) :
    around.loadTrustStore settings anchor =
      .error (contentError .trust settings.location cause) := by
  have decoded := StoreType.certificates_eq_iff.mpr fails
  rw [loadTrustStore, openStore_eq_ok_iff.mpr reaches]
  simp only [bind, Except.bind, decoded, Decoded.orRefused, contentError,
    StoreUse.refusesTrustStore_iff, StoreUse.unreadable]

theorem loadTrustStore_of_trusts {certificates : List Certificate}
    (reaches : around.Reaches settings anchor type password content)
    (trusts : type.Trusts content password (.ok certificates)) :
    around.loadTrustStore settings anchor = .ok ⟨certificates⟩ := by
  have decoded := StoreType.certificates_eq_iff.mpr trusts
  rw [loadTrustStore, openStore_eq_ok_iff.mpr reaches]
  simp only [bind, Except.bind, decoded, Decoded.orRefused]
  rfl

theorem loadTrustStore_eq_ok_iff {store : TrustStore} :
    around.loadTrustStore settings anchor = .ok store ↔
      ∃ type password content, around.Reaches settings anchor type password content ∧
        type.Trusts content password (.ok store.certificates) := by
  constructor
  · intro loaded
    obtain ⟨cause, unopened⟩ | ⟨type, password, content, reaches⟩ :=
      unopened_or_reaches around settings anchor .noTrustStorePassword
    · cases (loadTrustStore_of_unopened unopened).symm.trans loaded
    · obtain ⟨cause, fails⟩ | ⟨certificates, trusts⟩ :=
          StoreUse.fails_or_trusts type content password
      · cases (loadTrustStore_of_fails reaches fails).symm.trans loaded
      · cases (loadTrustStore_of_trusts reaches trusts).symm.trans loaded
        exact ⟨type, password, content, reaches, trusts⟩
  · rintro ⟨type, password, content, reaches, trusts⟩
    exact loadTrustStore_of_trusts reaches trusts

/-! ### Key stores -/

theorem loadKeyStore_of_unopened {cause : StoreError}
    (unopened : around.openStore settings anchor .noKeyStorePassword = .error cause) :
    around.loadKeyStore settings anchor = .error cause := by
  rw [loadKeyStore, unopened]
  rfl

theorem loadKeyStore_of_fails (reaches : around.Reaches settings anchor type password content)
    (fails : StoreUse.key.Fails type content password cause) :
    around.loadKeyStore settings anchor = .error (contentError .key settings.location cause) := by
  have decoded := StoreType.keys_eq_iff.mpr fails
  rw [loadKeyStore, openStore_eq_ok_iff.mpr reaches]
  simp only [bind, Except.bind, decoded, Decoded.orRefused, contentError,
    StoreUse.refusesKeyStore_iff, StoreUse.unreadable]

theorem loadKeyStore_of_holds {material : KeyMaterial}
    (reaches : around.Reaches settings anchor type password content)
    (holds : type.Holds content password (.ok material)) :
    around.loadKeyStore settings anchor =
      material.store?.elim (.error (.config (.noPrivateKey settings.location))) .ok := by
  have decoded := StoreType.keys_eq_iff.mpr holds
  rw [loadKeyStore, openStore_eq_ok_iff.mpr reaches]
  simp only [bind, Except.bind, decoded, Decoded.orRefused]
  rcases material with ⟨_ | key, _ | ⟨certificate, chain⟩⟩ <;> rfl

theorem loadKeyStore_eq_ok_iff {store : KeyStore} :
    around.loadKeyStore settings anchor = .ok store ↔
      ∃ type password content, around.Reaches settings anchor type password content ∧
        type.Holds content password (.ok ⟨some store.privateKey, store.certificates⟩) := by
  constructor
  · intro loaded
    obtain ⟨cause, unopened⟩ | ⟨type, password, content, reaches⟩ :=
      unopened_or_reaches around settings anchor .noKeyStorePassword
    · cases (loadKeyStore_of_unopened unopened).symm.trans loaded
    · obtain ⟨cause, fails⟩ | ⟨material, holds⟩ :=
          StoreUse.fails_or_holds type content password
      · cases (loadKeyStore_of_fails reaches fails).symm.trans loaded
      · rw [loadKeyStore_of_holds reaches holds] at loaded
        cases usable : material.store? with
        | none =>
            rw [usable] at loaded
            cases loaded
        | some made =>
            rw [usable] at loaded
            cases loaded
            rw [KeyMaterial.store?_eq_some_iff.mp usable] at holds
            exact ⟨type, password, content, reaches, holds⟩
  · rintro ⟨type, password, content, reaches, holds⟩
    have usable : KeyMaterial.store? ⟨some store.privateKey, store.certificates⟩ = some store :=
      KeyMaterial.store?_eq_some_iff.mpr rfl
    rw [loadKeyStore_of_holds reaches holds, usable]
    rfl

/-! ### The whole of it -/

end Surroundings

namespace Sample

theorem locate_k (content : List UInt8) (library : Library) :
    (Surroundings.mk ⟨[(["k"], .file content)], []⟩ [] library).locate "k" none = .ok content := by
  have found : FileTree.lookup ⟨[(["k"], .file content)], []⟩ [] "k" =
      .entry ["k"] (.file content) := by
    rw [FileTree.lookup_k (by decide)]
    rfl
  have unmarked : Surroundings.afterMark? Surroundings.classPathMark "k" = none := by
    decide
  have bare : (Surroundings.afterMark? Surroundings.fileMark "k").getD "k" = "k" := by
    decide
  simp only [Surroundings.locate, unmarked, bare, Surroundings.fileContent, found,
    Surroundings.contentAt, FileEntry.content?]

end Sample

section

open scoped Sample

theorem Sample.orUnreadable_kind {α : Type} {result : Option α} {e : DecodeError}
    (failed : orUnreadable result = .error e) : e.kind = .value := by
  cases result with
  | none =>
      cases failed
      rfl
  | some a => cases failed

theorem Sample.documented (use : StoreUse) : use.Documented := by
  have each {α : Type} {kinds : List ErrorKind} (value : .value ∈ kinds) {result : Option α}
      (e : DecodeError) (failed : orUnreadable result = .error e) : e.kind ∈ kinds := by
    rw [orUnreadable_kind failed]
    exact value
  have fails {kinds : List ErrorKind} (value : .value ∈ kinds) : StoreLibrary.FailsWith kinds :=
    ⟨fun _ => each value, fun _ => each value, fun _ _ => each value, fun _ _ => each value⟩
  cases use with
  | trust => exact fails (by decide)
  | key => exact ⟨fails (by decide), fun _ _ => each (by decide), fun _ => each (by decide)⟩

end

end ClientWiring
