import Mathlib.Data.List.Basic

/-!
# Framed streams

A stream of bytes is cut into frames by a function that looks at its front.  More bytes behind a
frame, or behind a corrupt front, do not change what the front is; only an unfinished front may
become something else.  So a stream that arrives in pieces is cut as the whole stream is.
-/

/-- What the front of a stream is: nothing whole yet, nothing that can become a frame, or a frame
and its length. -/
inductive Front (F : Type)
  | unfinished
  | corrupt
  | frame (f : F) (length : Nat)
  deriving DecidableEq

/-- A way to cut streams of bytes into frames. -/
structure Framing (B F : Type) where
  front : List B → Front F
  bounds : ∀ {s f n}, front s = .frame f n → 0 < n ∧ n ≤ s.length
  frame_append : ∀ {s f n} (t), front s = .frame f n → front (s ++ t) = .frame f n
  corrupt_append : ∀ {s} (t), front s = .corrupt → front (s ++ t) = .corrupt

namespace Framing

open List

variable {B F : Type} (framing : Framing B F)

/-- The frames at the front of a stream, and what is behind the last of them. -/
structure Scan (B F : Type) where
  frames : List F
  rest : List B

def Scan.push (f : F) (scan : Scan B F) : Scan B F := { scan with frames := f :: scan.frames }

/-- Cut a stream into its frames, up to a front that is not a frame. -/
def scan (s : List B) : Scan B F :=
  match _h : framing.front s with
  | .frame f n => (scan (s.drop n)).push f
  | _ => ⟨[], s⟩
  termination_by s.length
  decreasing_by
    have hbounds := framing.bounds _h
    rw [List.length_drop]
    omega

variable {framing}
variable {s t : List B} {f : F} {n : Nat}

theorem scan_frame (h : framing.front s = .frame f n) :
    framing.scan s = (framing.scan (s.drop n)).push f := by
  rw [scan]
  split
  · next found length hfound =>
      cases hfound.symm.trans h
      rfl
  · next hnone => exact absurd h (hnone f n)

theorem scan_unfinished (h : framing.front s = .unfinished) : framing.scan s = ⟨[], s⟩ := by
  rw [scan]
  split
  · next hfound => cases hfound.symm.trans h
  · rfl

theorem scan_corrupt (h : framing.front s = .corrupt) : framing.scan s = ⟨[], s⟩ := by
  rw [scan]
  split
  · next hfound => cases hfound.symm.trans h
  · rfl

/-- The induction that follows the cutting of a stream. -/
theorem scan_induction {motive : List B → Prop}
    (unfinished : ∀ s, framing.front s = .unfinished → motive s)
    (corrupt : ∀ s, framing.front s = .corrupt → motive s)
    (frame : ∀ s f n, framing.front s = .frame f n → motive (s.drop n) → motive s)
    (s : List B) : motive s := by
  induction s using scan.induct framing with
  | case1 s f n hfront ih => exact frame s f n hfront ih
  | case2 s hfront =>
    cases hother : framing.front s with
    | unfinished => exact unfinished s hother
    | corrupt => exact corrupt s hother
    | frame f n => exact absurd hother (hfront f n)

/-- Cutting stops at a front that is not a frame. -/
theorem front_rest (f : F) (n : Nat) : framing.front (framing.scan s).rest ≠ .frame f n := by
  induction s using @scan_induction _ _ framing with
  | unfinished s hfront =>
    rw [scan_unfinished hfront, hfront]
    intro hframe
    cases hframe
  | corrupt s hfront =>
    rw [scan_corrupt hfront, hfront]
    intro hframe
    cases hframe
  | frame s g m hfront ih =>
    rw [scan_frame hfront]
    exact ih

/-- What is left is the end of the stream. -/
theorem rest_suffix (s : List B) : (framing.scan s).rest <:+ s := by
  induction s using @scan_induction _ _ framing with
  | unfinished s hfront => exact (scan_unfinished hfront).symm ▸ suffix_refl s
  | corrupt s hfront => exact (scan_corrupt hfront).symm ▸ suffix_refl s
  | frame s f n hfront ih =>
    rw [scan_frame hfront]
    exact ih.trans (drop_suffix n s)

/-- Bytes that arrive later are cut together with what was left of the earlier ones. -/
theorem scan_append (t : List B) :
    framing.scan (s ++ t) =
      { frames := (framing.scan s).frames ++ (framing.scan ((framing.scan s).rest ++ t)).frames
        rest := (framing.scan ((framing.scan s).rest ++ t)).rest } := by
  induction s using @scan_induction _ _ framing with
  | unfinished s hfront =>
    rw [scan_unfinished hfront]
    rfl
  | corrupt s hfront =>
    rw [scan_corrupt hfront]
    rfl
  | frame s f n hfront ih =>
    have hdrop : (s ++ t).drop n = s.drop n ++ t :=
      drop_append_of_le_length (framing.bounds hfront).2
    rw [scan_frame hfront, scan_frame (framing.frame_append t hfront), hdrop, ih]
    rfl

/-! ## Encoded frames -/

/-- Every encoded frame is cut off again, and no part of it is taken for anything. -/
structure Encodes {G : Type} (framing : Framing B F) (frameOf : G → F) (encode : G → List B) : Prop where
  whole : ∀ g t, framing.front (encode g ++ t) = .frame (frameOf g) (encode g).length
  part : ∀ g s t, encode g = s ++ t → t ≠ [] → framing.front s = .unfinished

namespace Encodes

variable {G : Type} {frameOf : G → F} {encode : G → List B} (h : framing.Encodes frameOf encode)
include h

theorem scan_append (frames : List G) (t : List B) :
    framing.scan (frames.flatMap encode ++ t) =
      ⟨frames.map frameOf ++ (framing.scan t).frames, (framing.scan t).rest⟩ := by
  induction frames with
  | nil => rfl
  | cons g frames ih =>
    have hfront := h.whole g (frames.flatMap encode ++ t)
    rw [flatMap_cons, append_assoc, scan_frame hfront, drop_left, ih]
    rfl

/-- The part of an encoded sequence that has arrived is some whole frames and a part of the next,
or all of them and a part of what is behind them. -/
theorem prefix_cases {frames : List G} {t tail : List B}
    (hbytes : s ++ t = frames.flatMap encode ++ tail) :
    (∃ whole rest, whole <+: frames ∧ s = whole.flatMap encode ++ rest ∧
        framing.front rest = .unfinished) ∨
      ∃ rest, s = frames.flatMap encode ++ rest ∧ rest <+: tail := by
  induction frames generalizing s with
  | nil => exact .inr ⟨s, rfl, t, hbytes⟩
  | cons g frames ih =>
    rw [flatMap_cons, append_assoc] at hbytes
    -- The arrived part ends inside the first frame, or the first frame is all in it.
    have hwhole : ∀ more, s = encode g ++ more →
        more ++ t = frames.flatMap encode ++ tail →
        (∃ whole rest, whole <+: g :: frames ∧ s = whole.flatMap encode ++ rest ∧
            framing.front rest = .unfinished) ∨
          ∃ rest, s = (g :: frames).flatMap encode ++ rest ∧ rest <+: tail := by
      intro more hs hmore
      obtain ⟨whole, rest, hframes, hsplit, hfront⟩ | ⟨rest, hsplit, hrest⟩ := ih hmore
      · refine .inl ⟨g :: whole, rest, cons_prefix_cons.2 ⟨rfl, hframes⟩, ?_, hfront⟩
        rw [hs, hsplit, flatMap_cons, append_assoc]
      · refine .inr ⟨rest, ?_, hrest⟩
        rw [hs, hsplit, flatMap_cons, append_assoc]
    obtain ⟨more, hs, hrest⟩ | ⟨more, hs, hrest⟩ := append_eq_append_iff.1 hbytes
    · rcases eq_or_ne more [] with rfl | hmore
      · rw [append_nil] at hs
        exact hwhole [] (hs.symm.trans (append_nil _).symm) hrest
      · exact .inl ⟨[], s, nil_prefix, rfl, h.part g s more hs hmore⟩
    · exact hwhole more hs hrest.symm

end Encodes

end Framing
