/-
All views of the screen agree.

A pixel of the screen can be asked for by its place, counted from either end, it can be looked
up in the printed text, and it can be seen in a saved frame, where it is a square.  All of them
say the same, and so the screen can be read back from its text and from a frame.

* `Machine.pixel?_natCast`, `Machine.pixel?_sub` — the pixel at a place, counted from the
  start and from the end;
* `Display.splitOn_render`, `Display.getElem?_render` — the lines of the printed screen and
  their characters;
* `Picture.frameOf?_eq_ok_iff` — for which scales a frame is saved, and what it is;
* `Picture.Square` — that all pixels of the square of a cell have one colour, and
  `Picture.square_ofGrid_iff` — which colour that is;
* `Session.frame_eq` — a session saves the frame of scale 8;
* `Display.ofFrame_ofGrid` — the screen that a frame shows;
* `Machine.views_agree` — the views of the screen of any machine;
* `Machine.no_frame_at_scale_too_large` — the exception: a scale that is no 64-bit number.

Design notes: the colours of a scheme differ, which is why one pixel of a square is enough to
know whether it is lit.
-/
import Chip8.Proofs.Cells
import Chip8.Proofs.Squares
import Chip8.Session
import Mathlib.Tactic.TFAE

namespace Chip8

/-! ### Pixels by their places -/

namespace Machine

theorem place_natCast {size i : Nat} (hi : i < size) : place size i = i := by
  unfold place
  omega

/-- An index that counts from the end. -/
theorem place_sub {size i : Nat} (hi : i < size) : place size ((i : Int) - size) = i := by
  unfold place
  rw [if_pos (by omega)]
  omega

theorem pixel?_of_place {m : Machine} {i j : Int} {x : Column} {y : Row} (hi : FitsSigned32 i)
    (hj : FitsSigned32 j) (hx : place 64 i = x) (hy : place 32 j = y) :
    m.pixel? i j = some (m.state.display.get x y) := by
  have hcolumn : Fin.ofNat 64 x.val = x := Fin.ofNat_val_eq_self x
  have hrow : Fin.ofNat 32 y.val = y := Fin.ofNat_val_eq_self y
  rw [pixel?, if_pos ⟨hi, hj⟩, hx, hy, hcolumn, hrow]

theorem pixel?_natCast (m : Machine) (x : Column) (y : Row) :
    m.pixel? x.val y.val = some (m.state.display.get x y) := by
  refine pixel?_of_place ?_ ?_ (place_natCast x.isLt) (place_natCast y.isLt)
  · unfold FitsSigned32
    omega
  · unfold FitsSigned32
    omega

theorem pixel?_sub (m : Machine) (x : Column) (y : Row) :
    m.pixel? (x.val - 64) (y.val - 32) = some (m.state.display.get x y) := by
  refine pixel?_of_place ?_ ?_ (place_sub x.isLt) (place_sub y.isLt)
  · unfold FitsSigned32
    omega
  · unfold FitsSigned32
    omega

end Machine

/-! ### Pixels in the text -/

namespace Display

theorem splitOn_render (d : Display) :
    d.render.toList.splitOn '\n' = d.lines.map String.toList := by
  rw [render, Grid.splitOn_text (by decide) (by decide) (by decide), textLines_ofDisplay]

theorem getElem?_render (d : Display) (x : Column) (y : Row) :
    ((d.render.toList.splitOn '\n')[y.val]?.bind fun chars => chars[x.val]?)
      = some (if d.get x y then '█' else ' ') := by
  have hline : d.lines[y.val]? = some (d.line y) := by
    rw [lines, List.getElem?_ofFn, dif_pos y.isLt]
  rw [splitOn_render, List.getElem?_map, hline, Option.map_some, Option.bind_some, line,
    String.toList_ofList, List.getElem?_ofFn, dif_pos x.isLt]

/-- The screen that a text shows. -/
def ofText (text : String) : Display :=
  ⟨(Grid.ofText 64 32 litCell text).columns⟩

theorem ofText_render (d : Display) : ofText d.render = d := by
  rw [ofText, render, Grid.ofText_text (by decide) (by decide) (by decide) (by decide)]
  rfl

end Display

/-! ### Pixels in a frame -/

theorem Scheme.on_ne_off (scheme : Scheme) : scheme.on ≠ scheme.off := by
  cases scheme <;> decide

namespace Picture

theorem frame?_ofGrid {w h : Nat} (hw : 0 < w) (memory : Memory) (g : Grid w h) (scale : Int)
    (scheme : Scheme) :
    frame? memory (Nested.ofGrid g) scale scheme.name = frameOf? memory ⟨w, h, g⟩ scale scheme := by
  rw [frame?, Scheme.ofName?_name]
  dsimp only
  rw [Nested.grid?_ofGrid hw]
  rfl

/-- A picture with pixels is saved, if there is room for that. -/
theorem frameOf?_of_ofSized? {memory : Memory} {g : Nested.Sized} {scale : Int} {scheme : Scheme}
    {p : Picture} (hp : ofSized? memory g scale scheme.on.components scheme.off.components = .ok p)
    (hpixels : ¬ (p.width = 0 ∨ p.height = 0)) :
    frameOf? memory g scale scheme
      = if memory.saves p.height p.width then .ok p else .error .noMemory := by
  rw [frameOf?, hp]
  show (if p.width = 0 ∨ p.height = 0 then _ else _) = _
  rw [if_neg hpixels]
  cases memory.saves p.height p.width with
  | true => rfl
  | false => rfl

/-- The frame of a grid with cells is saved exactly if there is room for it and for saving it. -/
theorem frameOf?_eq_ok_iff {memory : Memory} {g : Nested.Sized} (hw : 0 < g.width)
    (hh : 0 < g.height) {scale : Int} {scheme : Scheme} {p : Picture} :
    frameOf? memory g scale scheme = .ok p
      ↔ (memory.Fits g.width g.height scale
          ∧ memory.saves (g.height * Image.factor scale) (g.width * Image.factor scale) = true)
        ∧ p = ofGrid g scale scheme.on scheme.off := by
  have hcells : g.width = 0 ∨ g.height = 0 → InRange g.width g.height scale := by
    intro hempty
    omega
  -- the enlarged grid has pixels, too
  have hpixels : ¬ ((ofGrid g scale scheme.on scheme.off).width = 0
      ∨ (ofGrid g scale scheme.on scheme.off).height = 0) := by
    rintro (hnone | hnone)
    · exact Nat.ne_of_gt (Nat.mul_pos hw (factor_pos scale)) hnone
    · exact Nat.ne_of_gt (Nat.mul_pos hh (factor_pos scale)) hnone
  constructor
  · intro hsaved
    obtain ⟨q, hq, -⟩ := bind_eq_ok_iff.1 hsaved
    obtain ⟨hfits, rfl⟩ := (ofSized?_eq_ok_iff hcells).1 hq
    rw [frameOf?_of_ofSized? hq hpixels] at hsaved
    split at hsaved
    · next hsaves => exact ⟨⟨hfits, hsaves⟩, (Except.ok.inj hsaved).symm⟩
    · nomatch hsaved
  · rintro ⟨⟨hfits, hsaves⟩, rfl⟩
    rw [frameOf?_of_ofSized? ((ofSized?_eq_ok_iff hcells).2 ⟨hfits, rfl⟩) hpixels]
    exact if_pos hsaves

/-- The frame of a screen. -/
theorem frame?_eq_ok_iff {memory : Memory} {d : Display} {scale : Int} {scheme : Scheme}
    {p : Picture} :
    frame? memory (Nested.ofGrid (Grid.ofDisplay d)) scale scheme.name = .ok p
      ↔ (memory.Fits 64 32 scale
          ∧ memory.saves (32 * Image.factor scale) (64 * Image.factor scale) = true)
        ∧ p = ofGrid ⟨64, 32, Grid.ofDisplay d⟩ scale scheme.on scheme.off := by
  have hw : 0 < 64 := by decide
  have hh : 0 < 32 := by decide
  rw [frame?_ofGrid hw]
  exact frameOf?_eq_ok_iff hw hh

/-- A scale that is no 64-bit number is refused, if there is room for the grid itself. -/
theorem frame?_of_le {memory : Memory} {d : Display} {scale : Int}
    (hscale : 0x8000000000000000 ≤ scale) (hfits : memory.Fits 64 32 1) (scheme : Scheme) :
    frame? memory (Nested.ofGrid (Grid.ofDisplay d)) scale scheme.name
      = .error .scaleOutOfRange := by
  rw [frame?_ofGrid (by decide), frameOf?, (ofSized?_of_le memory _ hscale _ _).2 hfits]
  rfl

/-- That all pixels of the square of a cell have one colour. -/
def Square (p : Picture) (s x y : Nat) (color : Color) : Prop :=
  ∀ i < s, ∀ j < s, p.pixel? (y * s + i) (x * s + j) = some color

theorem Square.unique {p : Picture} {s x y : Nat} {color color' : Color} (hs : 0 < s)
    (h : p.Square s x y color) (h' : p.Square s x y color') : color = color' := by
  have hcorner := (h 0 hs 0 hs).symm.trans (h' 0 hs 0 hs)
  exact Option.some.inj hcorner

theorem square_ofGrid {w h : Nat} (g : Grid w h) (scale : Int) (on off : Color) (x : Fin w)
    (y : Fin h) :
    (ofGrid ⟨w, h, g⟩ scale on off).Square (Image.factor scale) x y
      (if g.get x y then on else off) := by
  intro i hi j hj
  -- both coordinates lie within the square of the cell
  have hquotient {n k : Nat} (hk : k < Image.factor scale) :
      (n * Image.factor scale + k) / Image.factor scale = n := by
    rw [Nat.mul_comm, Nat.mul_add_div (factor_pos scale), Nat.div_eq_of_lt hk, Nat.add_zero]
  exact pixel?_ofGrid g on off (hquotient hj) (hquotient hi)

/-- A cell is lit exactly if its square has the one colour, and dark if it has the other. -/
theorem square_ofGrid_iff {w h : Nat} (g : Grid w h) (scale : Int) {on off : Color}
    (hne : on ≠ off) (x : Fin w) (y : Fin h) :
    (g.get x y = true ↔ (ofGrid ⟨w, h, g⟩ scale on off).Square (Image.factor scale) x y on)
      ∧ (g.get x y = false
        ↔ (ofGrid ⟨w, h, g⟩ scale on off).Square (Image.factor scale) x y off) := by
  have hsquare := square_ofGrid g scale on off x y
  have hpos := factor_pos scale
  -- the square has one of the two colours, and so it cannot have the other
  cases hlit : g.get x y with
  | true =>
    rw [hlit, if_pos rfl] at hsquare
    refine ⟨⟨fun _ => hsquare, fun _ => rfl⟩, fun h => absurd h (by decide), fun hoff => ?_⟩
    exact absurd (hsquare.unique hpos hoff) hne
  | false =>
    rw [hlit, if_neg Bool.false_ne_true] at hsquare
    refine ⟨⟨fun h => absurd h (by decide), fun hon => ?_⟩, fun _ => hsquare, fun _ => rfl⟩
    exact absurd (hon.unique hpos hsquare) hne

end Picture

/-- A session saves the frame of scale 8. -/
theorem Session.frame_eq (memory : Picture.Memory) (m : Machine) :
    frame memory m = Picture.frame? memory (Nested.ofGrid (Grid.ofDisplay m.state.display)) 8
      Scheme.classic.name :=
  (Picture.frame?_ofGrid (by decide) memory _ 8 .classic).symm

namespace Display

/-- The screen that a frame of a scale shows, if lit pixels have a colour: each square is
judged by its corner. -/
def ofFrame (scale : Int) (on : Color) (p : Picture) : Display :=
  let s := (max scale 1).toNat
  ofFn fun x y => p.pixel? (y * s) (x * s) = some on

theorem ofFrame_ofGrid (d : Display) (scale : Int) (scheme : Scheme) :
    ofFrame scale scheme.on
      (Picture.ofGrid ⟨64, 32, Grid.ofDisplay d⟩ scale scheme.on scheme.off) = d := by
  ext x y
  have hs := Picture.factor_pos scale
  rw [ofFrame, ← Picture.factor_eq, get_ofFn,
    Picture.pixel?_ofGrid _ _ _ (Nat.mul_div_cancel _ hs) (Nat.mul_div_cancel _ hs),
    Grid.get_ofDisplay, Bool.eq_iff_iff, decide_eq_true_iff, Option.some.injEq]
  cases d.get x y with
  | true => simp
  | false => simp [scheme.on_ne_off.symm]

end Display

namespace Machine

/-- **All views of the screen agree.**  For each place of the screen of a machine it is the
same to say that the pixel is lit, that it is found lit by its place counted from the start or
from the end, that the text has a full block there, and, in a frame of any scheme and of any
scale for which one is saved, that all pixels of its square have the colour of lit cells; if not,
they all have the other colour.  A frame is saved for exactly the scales for which there is room
to make it and to save it; a scale that is no 64-bit number is refused.  So both the text and a
frame give the screen back. -/
theorem views_agree (m : Machine) (scheme : Scheme) (memory : Picture.Memory) :
    let d := m.state.display
    let lines := d.render.toList.splitOn '\n'
    let save (scale : Int) :=
      Picture.frame? memory (Nested.ofGrid (Grid.ofDisplay d)) scale scheme.name
    (∀ (x : Column) (y : Row), List.TFAE
        [d.get x y = true,
          m.pixel? x.val y.val = some true,
          m.pixel? (x.val - 64) (y.val - 32) = some true,
          (lines[y.val]?.bind fun chars => chars[x.val]?) = some '█'])
      ∧ (∀ scale, let s := (max scale 1).toNat
        (∃ p, save scale = .ok p)
          ↔ memory.Fits 64 32 scale ∧ memory.saves (32 * s) (64 * s) = true)
      ∧ (∀ scale, 0x8000000000000000 ≤ scale → memory.Fits 64 32 1 →
        save scale = .error .scaleOutOfRange)
      ∧ (∀ scale p, save scale = .ok p →
        ∀ (x : Column) (y : Row), (d.get x y = true ↔ p.Square (max scale 1).toNat x y scheme.on)
          ∧ (d.get x y = false ↔ p.Square (max scale 1).toNat x y scheme.off))
      ∧ Display.ofText d.render = d
      ∧ ∀ scale p, save scale = .ok p → Display.ofFrame scale scheme.on p = d := by
  intro d lines save
  refine ⟨?_, ?_, ?_, ?_, d.ofText_render, ?_⟩
  · -- every view is compared with the screen itself
    intro x y
    tfae_have 1 ↔ 2 := by
      rw [pixel?_natCast, Option.some.injEq]
    tfae_have 1 ↔ 3 := by
      rw [pixel?_sub, Option.some.injEq]
    tfae_have 1 ↔ 4 := by
      rw [d.getElem?_render x y, Option.some.injEq]
      cases d.get x y <;> decide
    tfae_finish
  · intro scale s
    have hs : s = Image.factor scale := (Picture.factor_eq scale).symm
    rw [hs]
    constructor
    · rintro ⟨p, hp⟩
      exact (Picture.frame?_eq_ok_iff.1 hp).1
    · intro hroom
      exact ⟨_, Picture.frame?_eq_ok_iff.2 ⟨hroom, rfl⟩⟩
  · intro scale hscale hfits
    exact Picture.frame?_of_le hscale hfits scheme
  · intro scale p hp
    obtain ⟨-, rfl⟩ := Picture.frame?_eq_ok_iff.1 hp
    intro x y
    rw [← Picture.factor_eq, ← Grid.get_ofDisplay]
    exact Picture.square_ofGrid_iff _ scale scheme.on_ne_off x y
  · intro scale p hp
    obtain ⟨-, rfl⟩ := Picture.frame?_eq_ok_iff.1 hp
    exact d.ofFrame_ofGrid scale scheme

/-- A machine whose screen has one lit pixel, in column 5 and row 1. -/
def onePixel : Machine where
  state := { display := Display.ofFn fun x y => x.val = 5 ∧ y.val = 1 }
  config := {}
  journal := plainJournal

/-- The square of the one lit pixel at scale 3 ends in column 17 and row 5. -/
theorem views_agree_onePixel :
    ∃ p, Picture.frame? .unlimited (Nested.ofGrid (Grid.ofDisplay onePixel.state.display)) 3
        "amber" = .ok p
      ∧ onePixel.pixel? 5 1 = some true
      ∧ onePixel.pixel? (-59) (-31) = some true
      ∧ p.pixel? 5 17 = some ⟨255, 176, 0⟩
      ∧ p.pixel? 5 18 = some ⟨0, 0, 0⟩
      ∧ Display.ofFrame 3 ⟨255, 176, 0⟩ p = onePixel.state.display := by
  obtain ⟨hplaces, hframe, -, hsquares, -, hread⟩ := views_agree onePixel .amber .unlimited
  have hlit : onePixel.state.display.get 5 1 = true := Display.get_ofFn _ _ _
  have hdark : onePixel.state.display.get 6 1 = false := Display.get_ofFn _ _ _
  obtain ⟨p, hp⟩ := (hframe 3).2 ⟨Picture.Memory.fits_unlimited (by decide), rfl⟩
  refine ⟨p, hp, ?_, ?_, ?_, ?_, hread 3 p hp⟩
  · exact ((hplaces 5 1).out 0 1).1 hlit
  · exact ((hplaces 5 1).out 0 2).1 hlit
  · exact (hsquares 3 p hp 5 1).1.1 hlit 2 (by decide) 2 (by decide)
  · exact (hsquares 3 p hp 6 1).2.1 hdark 2 (by decide) 0 (by decide)

/-- At a scale that is no 64-bit number there is no frame of the screen of a new machine, and
so no square of its first pixel, however much room there is. -/
theorem no_frame_at_scale_too_large :
    ∃ m, load selfJump {} plainJournal = .ok m
      ∧ m.state.display.get 0 0 = false
      ∧ Picture.frame? .unlimited (Nested.ofGrid (Grid.ofDisplay m.state.display))
          0x8000000000000000 "classic" = .error .scaleOutOfRange
      ∧ ∀ memory, ¬ ∃ p, Picture.frame? memory (Nested.ofGrid (Grid.ofDisplay m.state.display))
          0x8000000000000000 "classic" = .ok p
        ∧ p.Square 0x8000000000000000 0 0 ⟨0, 0, 0⟩ := by
  refine ⟨loaded selfJump {} plainJournal, load_eq_ok_iff.2 ⟨by decide, rfl⟩,
    Display.get_blank 0 0, ?_, fun memory => ?_⟩
  · exact Picture.frame?_of_le (by decide) (Picture.Memory.fits_unlimited (by decide)) .classic
  · rintro ⟨p, hp, -⟩
    obtain ⟨⟨hfits, -⟩, -⟩ := (@Picture.frame?_eq_ok_iff _ _ _ .classic _).1 hp
    exact absurd hfits.bytes (by decide)

end Machine

end Chip8
