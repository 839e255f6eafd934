/-
This file says what has left when the writing of a message fails. A message is written in two parts
and flushed, but its sink cannot tell the parts apart: whatever it has room for, it has taken the
start of the frame, and nothing beside it. The fault names the part that did not go through, so it
says how much of the frame is gone. A message that is too long leaves no byte at all.
-/

import ApplicationLedger.Proofs.Message.Frame

namespace ApplicationLedger.Frame

/-! ### Two writes in a row -/

namespace Sink

variable {sink : Sink} {first : Bytes}

/-- A sink that has taken some bytes takes others behind them as if they had come together. -/
theorem write_behind (whole : (sink.write first).2 = true) (second : Bytes) :
    (sink.write first).1.write second = sink.write (first ++ second) := by
  obtain ⟨taken, capacity, flushes⟩ := sink
  cases capacity with
  | none => simp only [write, List.append_assoc]
  | some capacity =>
    have room : first.length ≤ capacity := of_decide_eq_true whole
    simp only [write, List.append_assoc, List.take_append, List.take_of_length_le room,
      List.length_append, Nat.sub_sub, Prod.mk.injEq, true_and, decide_eq_decide]
    omega

/-- A sink that has no room for some bytes has taken no more if others come with them. -/
theorem write_of_cut (cut : (sink.write first).2 = false) (second : Bytes) :
    sink.write (first ++ second) = sink.write first := by
  obtain ⟨taken, capacity, flushes⟩ := sink
  cases capacity with
  | none => cases cut
  | some capacity =>
    have room : ¬first.length ≤ capacity := of_decide_eq_false cut
    have behind : capacity - first.length = 0 := by omega
    have further : capacity - (first ++ second).length = 0 := by
      rw [List.length_append]
      omega
    have longer : ¬(first ++ second).length ≤ capacity := by
      rw [List.length_append]
      omega
    simp only [write, List.take_append, behind, further, List.take_zero, List.append_nil,
      decide_eq_false room, decide_eq_false longer]

/-- A sink that had room for some bytes has taken them all. -/
theorem taken_write (whole : (sink.write first).2 = true) :
    (sink.write first).1.taken = sink.taken ++ first := by
  obtain ⟨taken, capacity, flushes⟩ := sink
  cases capacity with
  | none => rfl
  | some capacity =>
    simp only [write, List.take_of_length_le (of_decide_eq_true whole)]

theorem flushes_write (sink : Sink) (bytes : Bytes) :
    (sink.write bytes).1.flushes = sink.flushes := by
  unfold write
  split <;> rfl

end Sink

/-! ### A message -/

variable {message : Json}

theorem tooLarge_eq (length : Nat) :
    tooLarge length =
      .ipc ("Message too large: " ++ toString length ++ " bytes (max 16777216)") := by
  have shown : " bytes (max " ++ toString greatestLength ++ ")" = " bytes (max 16777216)" := rfl
  rw [tooLarge, ← shown]
  simp only [String.append_assoc]

/-- A message that is too long leaves the sink as it is. -/
theorem write_of_long (long : greatestLength < message.compact.utf8ByteSize) (sink : Sink) :
    write message sink = (sink, .error (tooLarge message.compact.utf8ByteSize)) := by
  rw [write, if_pos long]

/-- Of any other message a sink takes what it would take of the frame at once. The fault names the
first part that did not go through. -/
theorem write_of_short (short : message.compact.utf8ByteSize ≤ greatestLength) (sink : Sink) :
    write message sink =
      ((sink.write (ofJson message)).1,
        if (sink.write (header message.compact.utf8ByteSize)).2 = false then
          .error (writeFailed "write message length" "sink failed")
        else if (sink.write (ofJson message)).2 = false then
          .error (writeFailed "write message body" "sink failed")
        else if sink.flushes then .ok ()
        else .error (writeFailed "flush message" "flush failed")) := by
  simp only [write, if_neg (Nat.not_lt.mpr short), Bytes.length_ofText]
  split
  · rename_i cut written
    rw [ofJson, Sink.write_of_cut (congrArg Prod.snd written), written]
    rfl
  · rename_i headed written
    have flushes := Sink.flushes_write sink (header message.compact.utf8ByteSize)
    have flushes' := Sink.flushes_write headed (Bytes.ofText message.compact)
    rw [ofJson, ← Sink.write_behind (congrArg Prod.snd written), written]
    rw [written] at flushes
    dsimp only at flushes ⊢
    split
    · rename_i cut written
      rw [written]
      rfl
    · rename_i full written
      rw [written] at flushes' ⊢
      dsimp only at flushes' ⊢
      rw [flushes'.trans flushes]
      cases sink.flushes <;> rfl

/-- What a sink has taken when the writing of a message succeeds is its frame. -/
theorem taken_of_write {sink sink' : Sink} (done : write message sink = (sink', .ok ())) :
    message.compact.utf8ByteSize ≤ greatestLength ∧
      sink'.taken = sink.taken ++ ofJson message := by
  by_cases short : message.compact.utf8ByteSize ≤ greatestLength
  · rw [write_of_short short, Prod.mk.injEq] at done
    obtain ⟨rfl, ended⟩ := done
    refine ⟨short, Sink.taken_write ?_⟩
    by_contra cut
    rw [if_pos (Bool.eq_false_iff.mpr cut)] at ended
    split at ended <;> cases ended
  · rw [write_of_long (Nat.lt_of_not_le short)] at done
    cases done

theorem length_ofJson (message : Json) :
    (ofJson message).length = headerLength + message.compact.utf8ByteSize :=
  List.length_append

section Room

variable (taken : Bytes) (capacity : Nat) (flushes : Bool)

/-- Which part does not go through is told by the room in the sink. -/
theorem write_of_room (short : message.compact.utf8ByteSize ≤ greatestLength) :
    write message ⟨taken, some capacity, flushes⟩ =
      ((Sink.write ⟨taken, some capacity, flushes⟩ (ofJson message)).1,
        if capacity < headerLength then
          .error (.ipc "Failed to write message length: sink failed")
        else if capacity < headerLength + message.compact.utf8ByteSize then
          .error (.ipc "Failed to write message body: sink failed")
        else if flushes then .ok ()
        else .error (.ipc "Failed to flush message: flush failed")) := by
  have headed : (header message.compact.utf8ByteSize).length = headerLength := rfl
  rw [write_of_short short]
  simp only [Sink.write, length_ofJson, headed, decide_eq_false_iff_not, Nat.not_le]
  rfl

theorem taken_write_ofJson :
    (Sink.write ⟨taken, some capacity, flushes⟩ (ofJson message)).1.taken =
      taken ++ (ofJson message).take
        (min capacity (headerLength + message.compact.utf8ByteSize)) := by
  rw [← length_ofJson, ← List.take_eq_take_min]
  rfl

end Room

/-- What is left of a message when its sink has room for some bytes only. A message that is too long
leaves no byte, and the fault says so. Of any other one the sink has taken the start of the frame,
exactly as much as it has room for. The writing succeeds if and only if the message is not too long,
the whole frame has found room and the sink can be flushed. Otherwise the fault names the length if
the header did not find room, the body if only the header did, and the flush if all of it did. -/
theorem write_stops_at_capacity (message : Json) (taken : Bytes) (capacity : Nat)
    (flushes : Bool) :
    ∃ body sink result, body = Bytes.ofText message.compact ∧
      write message ⟨taken, some capacity, flushes⟩ = (sink, result) ∧
      (result = .ok () ↔
        body.length ≤ greatestLength ∧ headerLength + body.length ≤ capacity ∧ flushes = true) ∧
      (greatestLength < body.length →
        sink.taken = taken ∧
        result = .error (.ipc ("Message too large: " ++ toString body.length ++
          " bytes (max 16777216)"))) ∧
      (body.length ≤ greatestLength →
        (∃ header, IsFrame header body ∧
          sink.taken =
            taken ++ (header ++ body).take (min capacity (headerLength + body.length))) ∧
        (capacity < headerLength →
          result = .error (.ipc "Failed to write message length: sink failed")) ∧
        (headerLength ≤ capacity → capacity < headerLength + body.length →
          result = .error (.ipc "Failed to write message body: sink failed")) ∧
        (headerLength + body.length ≤ capacity → flushes = false →
          result = .error (.ipc "Failed to flush message: flush failed"))) := by
  have measured := Bytes.length_ofText message.compact
  by_cases short : message.compact.utf8ByteSize ≤ greatestLength
  · refine ⟨_, _, _, rfl, write_of_room taken capacity flushes short, ?_⟩
    rw [measured]
    refine ⟨?_, fun long => absurd long (Nat.not_lt.mpr short), fun _ =>
      ⟨⟨_, isFrame_header short, taken_write_ofJson taken capacity flushes⟩, ?_, ?_, ?_⟩⟩
    · constructor
      · intro written
        split at written
        · cases written
        · split at written
          · cases written
          · rename_i room
            split at written
            · rename_i flushed
              exact ⟨short, Nat.le_of_not_lt room, flushed⟩
            · cases written
      · rintro ⟨-, room, rfl⟩
        rw [if_neg (by omega), if_neg (by omega)]
        rfl
    · intro little
      rw [if_pos little]
    · intro begun little
      rw [if_neg (by omega), if_pos little]
    · rintro room rfl
      rw [if_neg (by omega), if_neg (by omega)]
      rfl
  · have long := Nat.lt_of_not_le short
    refine ⟨_, _, _, rfl, write_of_long long _, ?_⟩
    rw [measured]
    refine ⟨iff_of_false (fun written => ?_) fun all => short all.1,
      fun _ => ⟨rfl, by rw [tooLarge_eq]⟩, fun all => absurd all short⟩
    cases written

/-- Of a message of four bytes, a sink with room for six has taken the header and half the body. -/
theorem write_stops_at_capacity_null :
    ∃ sink header,
      write .null ⟨[], some 6, true⟩ =
        (sink, .error (.ipc "Failed to write message body: sink failed")) ∧
      IsFrame header (Bytes.ofText "null") ∧
      sink.taken = (header ++ Bytes.ofText "null").take 6 := by
  obtain ⟨body, sink, result, rfl, written, -, -, ends⟩ := write_stops_at_capacity .null [] 6 true
  obtain ⟨⟨header, isFrame, taken⟩, -, cut, -⟩ := ends (by decide)
  rw [cut (by decide) (by decide)] at written
  exact ⟨sink, header, written, isFrame, taken⟩

end ApplicationLedger.Frame
