import Mathlib.Data.List.Basic
import Mathlib.Tactic

/-!
# Blocks in a buffer, and messages of several parts

`overwrite` copies a block into a buffer.  Blocks that are copied one behind the other lie there
one behind the other (`overwrite_front`).

A message is sent in parts, each of which says whether another one follows, and it is delivered
with its last part.  So what is delivered of a whole message is that message
(`deliver_message`), and of the parts of an unfinished one nothing is (`deliver_more`).
-/

namespace Lib

/-! ## Buffers -/

section Buffers

variable {α : Type}

/-- The block over the buffer from the position on, if it fits. -/
def overwrite (buffer : List α) (pos : Nat) (block : List α) : Option (List α) :=
  if pos + block.length ≤ buffer.length then
    some (buffer.take pos ++ block ++ buffer.drop (pos + block.length))
  else none

/-- A block goes over the first elements behind the front. -/
theorem overwrite_front (front rest block : List α) (h : block.length ≤ rest.length) :
    overwrite (front ++ rest) front.length block =
      some (front ++ block ++ rest.drop block.length) := by
  have hfits : front.length + block.length ≤ (front ++ rest).length := by
    rw [List.length_append]
    omega
  rw [overwrite, if_pos hfits, List.take_left, List.drop_length_add_append]

end Buffers

/-! ## Messages -/

/-- A part of a message, and whether another one follows. -/
structure MessagePart (α : Type) where
  data : α
  more : Bool

section Messages

variable {α : Type}

/-- The messages that are delivered, when these parts of the next one have come, and the parts of
the one that is not finished. -/
def deliver (pending : List α) : List (MessagePart α) → List (List α) × List α
  | [] => ([], pending)
  | part :: parts =>
      if part.more then deliver (pending ++ [part.data]) parts
      else
        let (messages, rest) := deliver [] parts
        ((pending ++ [part.data]) :: messages, rest)

theorem deliver_append (pending : List α) (parts parts' : List (MessagePart α)) :
    deliver pending (parts ++ parts') =
      ((deliver pending parts).1 ++ (deliver (deliver pending parts).2 parts').1,
        (deliver (deliver pending parts).2 parts').2) := by
  induction parts generalizing pending with
  | nil => rfl
  | cons part parts ih =>
      rw [List.cons_append, deliver, deliver]
      split
      · exact ih _
      · simp only [ih, List.cons_append]

/-- Parts that another one follows. -/
theorem deliver_more (pending : List α) {parts : List (MessagePart α)}
    (h : ∀ part ∈ parts, part.more = true) :
    deliver pending parts = ([], pending ++ parts.map MessagePart.data) := by
  induction parts generalizing pending with
  | nil => simp [deliver]
  | cons part parts ih =>
      rw [deliver, if_pos (h part (List.mem_cons_self ..)),
        ih _ fun p hp => h p (List.mem_cons_of_mem _ hp)]
      simp

/-- A whole message. -/
theorem deliver_message {front : List (MessagePart α)} (h : ∀ part ∈ front, part.more = true)
    {last : MessagePart α} (hlast : last.more = false) :
    deliver [] (front ++ [last]) = ([front.map MessagePart.data ++ [last.data]], []) := by
  rw [deliver_append, deliver_more [] h, deliver, hlast]
  simp [deliver]

end Messages

end Lib
