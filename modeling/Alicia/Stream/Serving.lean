import Alicia.Stream.Framing
import Alicia.Transition.Effect

/-!
# Servers of framed streams

A server takes the frames off a stream, one after another, and handles each.  It stops at a front that
is not a frame, tells how many bytes it has consumed, and fails at a corrupt front or where a handler
fails.
-/

def Front.isCorrupt {F : Type} : Front F → Bool
  | .corrupt => true
  | _ => false

namespace Framing

open Transition Effect

variable {B F S E : Type} (framing : Framing B F) (handle : F → Effect S E Unit) (malformed : E)

/-- Handle the frames of a stream, and return how many bytes they are. -/
def serve (s : List B) : Effect S E Nat := do
  (framing.scan s).frames.forM handle
  if (framing.front (framing.scan s).rest).isCorrupt then throw malformed
  else return s.length - (framing.scan s).rest.length

variable {framing handle malformed}
variable {s : List B} {f : F} {n : Nat}

theorem serve_unfinished (h : framing.front s = .unfinished) (state : S) :
    framing.serve handle malformed s state = .ok 0 state := by
  have hnone : ([] : List F).forM handle state = .ok ⟨⟩ state := rfl
  rw [serve, scan_unfinished h, bind_ok hnone, h]
  exact congrArg (fun consumed => EStateM.Result.ok consumed state) (Nat.sub_self s.length)

theorem serve_corrupt (h : framing.front s = .corrupt) (state : S) :
    framing.serve handle malformed s state = .error malformed state := by
  have hnone : ([] : List F).forM handle state = .ok ⟨⟩ state := rfl
  rw [serve, scan_corrupt h, bind_ok hnone, h]
  rfl

/-- A frame is handled, and then the rest of the stream. -/
theorem serve_frame (h : framing.front s = .frame f n) (state : S) :
    framing.serve handle malformed s state =
      (handle f >>= fun _ => (· + n) <$> framing.serve handle malformed (s.drop n)) state := by
  have hbounds := framing.bounds h
  have hrest := (framing.rest_suffix (s.drop n)).length_le
  have hcons : (f :: (framing.scan (s.drop n)).frames).forM handle =
      handle f >>= fun _ => (framing.scan (s.drop n)).frames.forM handle := rfl
  rw [List.length_drop] at hrest
  rw [serve, scan_frame h, Scan.push, hcons, bind_assoc]
  refine congrArg (fun next => (handle f >>= next) state) (funext fun _ => funext fun state => ?_)
  rw [map_apply, serve, bind_apply, bind_apply]
  cases (framing.scan (s.drop n)).frames.forM handle state with
  | error failure after => rfl
  | ok done after =>
    dsimp only
    split
    · rfl
    · have hlength : s.length - (framing.scan (s.drop n)).rest.length =
          (s.drop n).length - (framing.scan (s.drop n)).rest.length + n := by
        rw [List.length_drop]
        omega
      rw [hlength]
      rfl

end Framing
