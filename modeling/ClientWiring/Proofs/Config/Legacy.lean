import ClientWiring.Config.Legacy
set_option autoImplicit false

/-! What the legacy source has under a key: nothing where the key is absent or its text is blank, and
else the trimmed text. An answer depends on nothing but the text under its key. -/

namespace ClientWiring

namespace PropertySource

theorem raw?_of_absent (source : PropertySource) {key : String}
    (absent : source.properties.get? key = none) : source.raw? key = none := by
  unfold raw?
  rw [absent]

theorem raw?_of_blank (source : PropertySource) {key value : String}
    (found : source.properties.get? key = some value) (blank : Text.allBlank value = true) :
    source.raw? key = none := by
  unfold raw?
  rw [found]
  exact if_pos blank

theorem raw?_of_filled (source : PropertySource) {key value : String}
    (found : source.properties.get? key = some value) (filled : Text.allBlank value = false) :
    source.raw? key = some (Text.trim value) := by
  unfold raw?
  rw [found]
  simp only [filled, Bool.false_eq_true, if_false]

theorem raw?_congr {source other : PropertySource} {key : String}
    (same : source.properties.get? key = other.properties.get? key) :
    source.raw? key = other.raw? key := by
  unfold raw?
  rw [same]

theorem get?_congr {source other : PropertySource} {key : String}
    (same : source.raw? key = other.raw? key) (kind : Kind) :
    source.get? key kind = other.get? key kind := by
  unfold get?
  rw [same]

end PropertySource

end ClientWiring
