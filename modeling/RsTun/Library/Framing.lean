/-
**Length-prefixed messages on a byte stream.**

A frame is a body behind its length, which is written big-endian in `width` bytes. The length is
written modulo `256 ^ width`, so a body that is too long is framed as if it were shorter.

* `unframe_eq_some_iff` — what comes off the front of a stream is the frame of a body whose length
  fits, and nothing else does.
* `unframeAll_eq_iff` — **every stream is, in exactly one way**, a sequence of frames in front of a
  rest that does not begin with one.
* `unframeAll_frames_iff` — a sequence of frames is read back **exactly** when all the lengths fit.
* `unframeAll_append` — frames at the front of a stream come first of all its frames.
* `unframeAll_prefix` — a part of a sequence of frames is read back as a part of it.
-/

import RsTun.Library.Bytes

namespace RsTun.Library

open Bytes

variable {width : Nat}

/-- A body behind its length. -/
def frame (width : Nat) (body : Bytes) : Bytes := encode width body.length ++ body

/-- Frames, one after the other. -/
def frames (width : Nat) (bodies : List Bytes) : Bytes := bodies.flatMap (frame width)

/-- The body of the frame at the front of a stream, and the rest of the stream. -/
def unframe (width : Nat) (stream : Bytes) : Option (Bytes × Bytes) :=
  let behind := stream.drop width
  let size := value (stream.take width)
  if width ≤ stream.length ∧ size ≤ behind.length then some (behind.take size, behind.drop size)
  else none

@[simp] theorem frames_nil (width : Nat) : frames width [] = [] := rfl

@[simp] theorem frames_cons (width : Nat) (body : Bytes) (rest : List Bytes) :
    frames width (body :: rest) = frame width body ++ frames width rest := rfl

@[simp] theorem frames_singleton (width : Nat) (body : Bytes) :
    frames width [body] = frame width body :=
  List.append_nil _

@[simp] theorem frames_append (width : Nat) (first second : List Bytes) :
    frames width (first ++ second) = frames width first ++ frames width second :=
  List.flatMap_append

@[simp] theorem length_frame (width : Nat) (body : Bytes) :
    (frame width body).length = width + body.length := by
  rw [frame, List.length_append, length_encode]

/-- What a stream begins with, when its first bytes are a length. -/
theorem unframe_encode {size : Nat} (small : size < 256 ^ width) (behind : Bytes) :
    unframe width (encode width size ++ behind)
      = if size ≤ behind.length then some (behind.take size, behind.drop size) else none := by
  have front : (encode width size ++ behind).take width = encode width size :=
    List.take_left' (length_encode width size)
  have back : (encode width size ++ behind).drop width = behind :=
    List.drop_left' (length_encode width size)
  have long : width ≤ (encode width size ++ behind).length := by
    rw [List.length_append, length_encode]
    omega
  unfold unframe
  simp only [front, back, value_encode, Nat.mod_eq_of_lt small, long, true_and]

/-- **What comes off the front of a stream.** -/
theorem unframe_eq_some_iff {stream body rest : Bytes} :
    unframe width stream = some (body, rest)
      ↔ body.length < 256 ^ width ∧ stream = frame width body ++ rest := by
  constructor
  · intro found
    unfold unframe at found
    dsimp only at found
    split at found
    case isFalse => cases found
    case isTrue fits =>
      obtain ⟨long, within⟩ := fits
      obtain ⟨rfl, rfl⟩ := Prod.mk.inj (Option.some.inj found)
      have two : (stream.take width).length = width := List.length_take_of_le long
      have small := value_lt (stream.take width)
      rw [two] at small
      have length : ((stream.drop width).take (value (stream.take width))).length
          = value (stream.take width) := List.length_take_of_le within
      have front : encode width (value (stream.take width)) = stream.take width := by
        apply value_injective
        · rw [length_encode, two]
        · rw [value_encode, Nat.mod_eq_of_lt small]
      refine ⟨length.symm ▸ small, ?_⟩
      rw [frame, length, front, List.append_assoc, List.take_append_drop, List.take_append_drop]
  · rintro ⟨small, rfl⟩
    rw [frame, List.append_assoc, unframe_encode small, List.length_append,
      if_pos (Nat.le_add_right _ _), List.take_left, List.drop_left]

theorem unframe_shorter {stream body rest : Bytes} (positive : 0 < width)
    (found : unframe width stream = some (body, rest)) : rest.length < stream.length := by
  obtain ⟨-, rfl⟩ := unframe_eq_some_iff.mp found
  rw [List.length_append, length_frame]
  omega

/-- The frames in front of a stream, and what is behind them. `turns` bounds their number. -/
def unframeTurns (width : Nat) : Nat → Bytes → List Bytes × Bytes
  | 0, stream => ([], stream)
  | turns + 1, stream =>
      match unframe width stream with
      | none => ([], stream)
      | some (body, rest) =>
          let later := unframeTurns width turns rest
          (body :: later.1, later.2)

/-- **All the frames in front of a stream**, and what is behind them. -/
def unframeAll (width : Nat) (stream : Bytes) : List Bytes × Bytes :=
  unframeTurns width stream.length stream

/-- The stream is these frames, and a rest that begins with none. -/
def IsFramed (width : Nat) (stream : Bytes) (bodies : List Bytes) (rest : Bytes) : Prop :=
  (∀ body ∈ bodies, body.length < 256 ^ width) ∧ stream = frames width bodies ++ rest
    ∧ unframe width rest = none

/-- The first frame of a stream that begins with one. -/
theorem IsFramed.of_cons {stream body rest : Bytes} {bodies : List Bytes}
    (framed : IsFramed width stream (body :: bodies) rest) :
    ∃ later, unframe width stream = some (body, later) ∧ IsFramed width later bodies rest := by
  obtain ⟨small, rfl, ends⟩ := framed
  refine ⟨frames width bodies ++ rest, unframe_eq_some_iff.mpr ⟨small _ List.mem_cons_self, ?_⟩,
    fun other among => small _ (List.mem_cons_of_mem _ among), rfl, ends⟩
  rw [frames_cons, List.append_assoc]

/-- **A stream is framed in one way at most.** -/
theorem IsFramed.unique {stream rest rest' : Bytes} {bodies bodies' : List Bytes}
    (framed : IsFramed width stream bodies rest) (framed' : IsFramed width stream bodies' rest') :
    bodies = bodies' ∧ rest = rest' := by
  induction bodies generalizing stream bodies' with
  | nil =>
      obtain ⟨-, rfl, ends⟩ := framed
      cases bodies' with
      | nil => exact ⟨rfl, framed'.2.1⟩
      | cons body' later' =>
          obtain ⟨later, found, -⟩ := framed'.of_cons
          rw [ends] at found
          cases found
  | cons body later ih =>
      obtain ⟨behind, found, framedLater⟩ := framed.of_cons
      cases bodies' with
      | nil =>
          obtain ⟨-, rfl, ends⟩ := framed'
          rw [ends] at found
          cases found
      | cons body' later' =>
          obtain ⟨behind', found', framedLater'⟩ := framed'.of_cons
          obtain ⟨rfl, rfl⟩ := Prod.mk.inj (Option.some.inj (found.symm.trans found'))
          obtain ⟨rfl, rfl⟩ := ih framedLater framedLater'
          exact ⟨rfl, rfl⟩

theorem unframeTurns_framed (positive : 0 < width) :
    ∀ {turns : Nat} {stream : Bytes}, stream.length ≤ turns →
      IsFramed width stream (unframeTurns width turns stream).1
        (unframeTurns width turns stream).2
  | 0, stream, short => by
      obtain rfl := List.length_eq_zero_iff.mp (Nat.le_zero.mp short)
      exact ⟨nofun, rfl, if_neg fun fits => absurd fits.1 (Nat.not_le.mpr positive)⟩
  | turns + 1, stream, short => by
      rw [unframeTurns]
      split
      case h_1 none => exact ⟨nofun, rfl, none⟩
      case h_2 body rest found =>
        have fewer := unframe_shorter positive found
        obtain ⟨small, same⟩ := unframe_eq_some_iff.mp found
        obtain ⟨fits, whole, ends⟩ := unframeTurns_framed positive
          (Nat.le_of_lt_succ (Nat.lt_of_lt_of_le fewer short))
        refine ⟨List.forall_mem_cons.mpr ⟨small, fits⟩, ?_, ends⟩
        rw [frames_cons, List.append_assoc, ← whole]
        exact same

/-- **Every stream is framed in exactly one way**, which is what is read off it. -/
theorem unframeAll_eq_iff (positive : 0 < width) {stream rest : Bytes} {bodies : List Bytes} :
    unframeAll width stream = (bodies, rest) ↔ IsFramed width stream bodies rest := by
  have framed : IsFramed width stream (unframeAll width stream).1 (unframeAll width stream).2 :=
    unframeTurns_framed positive (Nat.le_refl _)
  constructor
  · intro same
    rwa [same] at framed
  · intro other
    obtain ⟨first, second⟩ := framed.unique other
    exact Prod.ext first second

/-- A stream that begins with no frame. -/
theorem unframeAll_of_none (positive : 0 < width) {stream : Bytes}
    (ends : unframe width stream = none) : unframeAll width stream = ([], stream) := by
  rw [unframeAll_eq_iff positive]
  exact ⟨fun _ none => absurd none List.not_mem_nil, rfl, ends⟩

/-- **A sequence of frames is read back exactly when all the lengths fit.** -/
theorem unframeAll_frames_iff (positive : 0 < width) {bodies : List Bytes} :
    unframeAll width (frames width bodies) = (bodies, [])
      ↔ ∀ body ∈ bodies, body.length < 256 ^ width := by
  rw [unframeAll_eq_iff positive]
  refine ⟨fun framed => framed.1, fun small => ⟨small, (List.append_nil _).symm, ?_⟩⟩
  exact if_neg fun fits => absurd fits.1 (Nat.not_le.mpr positive)

/-- **Frames at the front of a stream come first of all its frames.** -/
theorem unframeAll_append (positive : 0 < width) {stream rest : Bytes} {bodies : List Bytes}
    (small : ∀ body ∈ bodies, body.length < 256 ^ width)
    (same : stream = frames width bodies ++ rest) :
    unframeAll width stream
      = (bodies ++ (unframeAll width rest).1, (unframeAll width rest).2) := by
  have framed : IsFramed width rest (unframeAll width rest).1 (unframeAll width rest).2 :=
    (unframeAll_eq_iff positive).mp rfl
  obtain ⟨smallRest, whole, ends⟩ := framed
  refine (unframeAll_eq_iff positive).mpr ⟨?_, ?_, ends⟩
  · exact fun body among => (List.mem_append.mp among).elim (small body) (smallRest body)
  · rw [frames_append, List.append_assoc, ← whole, same]

/-- **A part of a sequence of frames is read back as a part of it.** -/
theorem unframeAll_prefix (positive : 0 < width) {stream : Bytes} {bodies : List Bytes}
    (small : ∀ body ∈ bodies, body.length < 256 ^ width) (part : stream <+: frames width bodies) :
    (unframeAll width stream).1 <+: bodies := by
  obtain ⟨behind, whole⟩ := part
  have framed : IsFramed width stream (unframeAll width stream).1 (unframeAll width stream).2 :=
    (unframeAll_eq_iff positive).mp rfl
  obtain ⟨fits, same, -⟩ := framed
  have longer : frames width bodies
      = frames width (unframeAll width stream).1 ++ ((unframeAll width stream).2 ++ behind) := by
    rw [← List.append_assoc, ← same, whole]
  have read := unframeAll_append positive fits longer
  rw [(unframeAll_frames_iff positive).mpr small] at read
  exact ⟨_, (congrArg Prod.fst read).symm⟩

end RsTun.Library
