import BareMetal.Proofs.Outcome
import BareMetal.Proofs.Target.Packets
import Mathlib.Data.List.Forall2

/-!
# The calls of a loader

A loader has moves to make: packets to send and acknowledgements to wait for.  Whatever the socket
does, the calls that it gets are made for these moves in order and end as it has them end, and the
first that fails is the last (`Follows`, `Performs`).  A call is made for the move in its place and
behind calls that all succeeded (`Follows.of_split`), no move is left out but behind a call that
fails (`Follows.forall₂_of_ok`, `Follows.of_error`), and all goes well exactly if the socket meets
no error and every reply is the acknowledgement that is waited for (`Follows.eq_ok_iff`).
-/

namespace BareMetal.Target.Loader

/-! ## Moves and calls -/

/-- What a loader has to do: to send a packet, or to see a command acknowledged. -/
inductive Move where
  | send (bytes : Bytes)
  | awaitAck (c : Command)

/-- The packet to be sent. -/
def Move.packet? : Move → Option Bytes
  | send bytes => some bytes
  | awaitAck _ => none

/-- The command to be acknowledged. -/
def Move.command? : Move → Option Command
  | send _ => none
  | awaitAck c => some c

/-- The reply begins with some letters. -/
def BeginsWith (letters : String) (reply : Bytes) : Prop :=
  (Bytes.ofText letters).toList <+: reply.toList

/-- The reply begins with the letters of the command that count. -/
def Acknowledges (c : Command) (reply : Bytes) : Prop :=
  c.tag.toList.take ackSize <+: reply.toList

theorem acknowledges_iff {c : Command} {reply : Bytes} :
    acknowledges c reply = true ↔ Acknowledges c reply := by
  have letters : (c.tag.toList.take ackSize).length = ackSize := by
    rw [List.length_take, Array.length_toList, size_tag]
    rfl
  have extract_eq (b : Bytes) : (b.extract 0 ackSize).toList = b.toList.take ackSize := by
    simp
  rw [acknowledges, Acknowledges, List.prefix_iff_eq_take, letters, Bool.and_eq_true,
    decide_eq_true_eq, beq_iff_eq, ← Array.toList_inj, extract_eq, extract_eq]
  constructor
  · rintro ⟨-, same⟩
    exact same.symm
  · intro same
    refine ⟨?_, same.symm⟩
    have := congrArg List.length same
    rw [letters, List.length_take, Array.length_toList] at this
    omega

namespace Call

/-- The packet that was handed over, whether it was taken or not. -/
def handed? : Call → Option Bytes
  | sent bytes => some bytes
  | refused bytes _ => some bytes
  | _ => none

/-- The reply that came. -/
def reply? : Call → Option Bytes
  | received reply => some reply
  | _ => none

/-- The socket met an error. -/
def Failed : Call → Prop
  | refused _ _ => True
  | missed _ => True
  | _ => False

/-- The call is one for the move, however it ends. -/
inductive MadeFor : Call → Move → Prop
  | sent (bytes : Bytes) : MadeFor (.sent bytes) (.send bytes)
  | refused (bytes : Bytes) (e : IoError) : MadeFor (.refused bytes e) (.send bytes)
  | received (c : Command) (reply : Bytes) : MadeFor (.received reply) (.awaitAck c)
  | missed (c : Command) (e : IoError) : MadeFor (.missed e) (.awaitAck c)

end Call

namespace Socket

/-- The socket behind a call. -/
def after (s : Socket) (call : Call) : Socket :=
  match call with
  | .sent _ | .refused _ _ => { s with refusals := s.refusals.tail }.record call
  | .received _ | .missed _ => { s with incoming := s.incoming.tail }.record call

/-- The socket ends a call in this way: by the error that the next packet meets, or by what is the
next to come. -/
def Ends (s : Socket) : Call → Prop
  | .sent _ => s.refusal = none
  | .refused _ e => s.refusal = some e
  | .received reply => ∃ bytes, s.incoming.head? = some (.data bytes) ∧
    reply = bytes.extract 0 replySize
  | .missed e => s.incoming.head? = some (.failure e) ∨ s.incoming = [] ∧ e = noReply

/-- The socket ends calls in these ways, one after the other. -/
def EndsAll : Socket → List Call → Prop
  | _, [] => True
  | s, call :: calls => s.Ends call ∧ (s.after call).EndsAll calls

theorem endsAll_append {s : Socket} {made more : List Call} :
    s.EndsAll (made ++ more) ↔ s.EndsAll made ∧ (made.foldl after s).EndsAll more := by
  induction made generalizing s with
  | nil => simp [EndsAll]
  | cons call made ih => rw [List.cons_append, EndsAll, EndsAll, ih, List.foldl_cons, and_assoc]

/-! What is told on the way changes nothing. -/

theorem after_events (s : Socket) (events : Array Event) (call : Call) :
    { s with events }.after call = { s.after call with events } := by
  cases call <;> rfl

theorem foldl_after_events (s : Socket) (events : Array Event) (made : List Call) :
    made.foldl after { s with events } = { made.foldl after s with events } := by
  induction made generalizing s with
  | nil => rfl
  | cons call made ih => rw [List.foldl_cons, List.foldl_cons, after_events, ih]

theorem endsAll_events {s : Socket} {events : Array Event} {made : List Call} :
    { s with events }.EndsAll made ↔ s.EndsAll made := by
  induction made generalizing s with
  | nil => exact Iff.rfl
  | cons call made ih =>
    rw [EndsAll, EndsAll, after_events, ih]
    cases call <;> rfl

theorem toList_calls_after (s : Socket) (made : List Call) :
    (made.foldl after s).calls.toList = s.calls.toList ++ made := by
  induction made generalizing s with
  | nil => simp
  | cons call made ih =>
    have one : (s.after call).calls.toList = s.calls.toList ++ [call] := by
      cases call <;> exact Array.toList_push
    rw [List.foldl_cons, ih, one, List.append_assoc, List.singleton_append]

end Socket

/-- The call does what the move asks for. -/
inductive Move.Succeeds : Move → Call → Prop
  | send (bytes : Bytes) : Succeeds (.send bytes) (.sent bytes)
  | awaitAck {c : Command} {reply : Bytes} :
    Acknowledges c reply → Succeeds (.awaitAck c) (.received reply)

/-- The call is made for the move, and fails with an error. -/
inductive Move.Fails : Move → Call → Error → Prop
  | send (bytes : Bytes) (e : IoError) : Fails (.send bytes) (.refused bytes e) (.io e)
  | missed (c : Command) (e : IoError) : Fails (.awaitAck c) (.missed e) (.io e)
  | mismatch {c : Command} {reply : Bytes} : ¬ Acknowledges c reply →
    Fails (.awaitAck c) (.received reply) (.badAck c.text reply)

theorem Move.Succeeds.madeFor {m : Move} {call : Call} (h : m.Succeeds call) : call.MadeFor m := by
  cases h with
  | send bytes => exact .sent bytes
  | awaitAck _ => exact .received _ _

theorem Move.Fails.madeFor {m : Move} {call : Call} {failure : Error} (h : m.Fails call failure) :
    call.MadeFor m := by
  cases h with
  | send bytes e => exact .refused bytes e
  | missed c e => exact .missed c e
  | mismatch _ => exact .received _ _

/-- Calls are made for moves in order, each of them succeeds, and the first that fails is the
last. -/
inductive Follows : List Move → List Call → Except Error Unit → Prop
  | done : Follows [] [] (.ok ())
  | next {m : Move} {call : Call} {moves : List Move} {calls : List Call}
    {result : Except Error Unit} :
    m.Succeeds call → Follows moves calls result → Follows (m :: moves) (call :: calls) result
  | stop {m : Move} {call : Call} {failure : Error} (moves : List Move) :
    m.Fails call failure → Follows (m :: moves) [call] (.error failure)

namespace Follows

variable {moves others : List Move} {calls more : List Call} {result : Except Error Unit}

theorem append (first : Follows moves calls (.ok ())) (second : Follows others more result) :
    Follows (moves ++ others) (calls ++ more) result := by
  generalize done : Except.ok () = outcome at first
  induction first with
  | done => exact second
  | next succeeds _ ih => exact .next succeeds (ih done)
  | stop _ _ => cases done

theorem append_of_error {failure : Error} (h : Follows moves calls (.error failure))
    (others : List Move) : Follows (moves ++ others) calls (.error failure) := by
  generalize failed : Except.error failure = outcome at h
  induction h with
  | done => cases failed
  | next succeeds _ ih => exact .next succeeds (ih failed)
  | stop moves fails => exact .stop _ fails

/-- The packets taken are the first of those to be sent. -/
theorem packets_prefix (h : Follows moves calls result) :
    calls.filterMap Call.packet? <+: moves.filterMap Move.packet? := by
  induction h with
  | done => exact List.prefix_rfl
  | next succeeds _ ih =>
    cases succeeds with
    | send bytes => exact List.cons_prefix_cons.2 ⟨rfl, ih⟩
    | awaitAck _ => exact ih
  | stop moves fails => cases fails <;> exact List.nil_prefix

/-- A call is made for the move in its place, and all calls before it have succeeded. -/
theorem of_split {front back : List Call} {call : Call}
    (h : Follows moves (front ++ call :: back) result) : ∃ before m after,
      moves = before ++ m :: after ∧ call.MadeFor m ∧ List.Forall₂ Move.Succeeds before front := by
  generalize calls_eq : front ++ call :: back = calls at h
  induction h generalizing front with
  | done => simp at calls_eq
  | @next m first moves calls result succeeds _ ih =>
    rcases List.append_eq_cons_iff.1 calls_eq with ⟨rfl, same⟩ | ⟨front, rfl, rest_eq⟩
    · obtain ⟨rfl, -⟩ := List.cons.inj same
      exact ⟨[], m, moves, rfl, succeeds.madeFor, .nil⟩
    · obtain ⟨before, m', after, rfl, made, all⟩ := ih rest_eq.symm
      exact ⟨m :: before, m', after, rfl, made, .cons succeeds all⟩
  | @stop m last failure moves fails =>
    rcases List.append_eq_cons_iff.1 calls_eq with ⟨rfl, same⟩ | ⟨front, rfl, rest_eq⟩
    · obtain ⟨rfl, -⟩ := List.cons.inj same
      exact ⟨[], m, moves, rfl, fails.madeFor, .nil⟩
    · simp at rest_eq

/-- Where nothing fails, all moves are made. -/
theorem forall₂_of_ok (h : Follows moves calls (.ok ())) :
    List.Forall₂ Move.Succeeds moves calls := by
  generalize done : Except.ok () = outcome at h
  induction h with
  | done => exact .nil
  | next succeeds _ ih => exact .cons succeeds (ih done)
  | stop _ _ => cases done

/-- An error is that of the last call, which is made for the first move that fails. -/
theorem of_error {failure : Error} (h : Follows moves calls (.error failure)) :
    ∃ before m after front call, moves = before ++ m :: after ∧ calls = front ++ [call] ∧
      List.Forall₂ Move.Succeeds before front ∧ m.Fails call failure := by
  generalize failed : Except.error failure = outcome at h
  induction h with
  | done => cases failed
  | @next m call _ _ _ succeeds _ ih =>
    obtain ⟨before, m', after, front, call', rfl, rfl, all, fails⟩ := ih failed
    exact ⟨m :: before, m', after, call :: front, call', rfl, rfl, .cons succeeds all, fails⟩
  | @stop m call _ moves fails =>
    cases failed
    exact ⟨[], m, moves, [], call, rfl, rfl, .nil, fails⟩

/-- All moves are made and succeed exactly if the socket meets no error and the replies that come
acknowledge the commands. -/
theorem eq_ok_iff (h : Follows moves calls result) : result = .ok () ↔
    (∀ call ∈ calls, ¬ call.Failed) ∧
      List.Forall₂ Acknowledges (moves.filterMap Move.command?) (calls.filterMap Call.reply?) := by
  induction h with
  | done => simp
  | next succeeds _ ih =>
    cases succeeds with
    | send bytes => simpa [List.filterMap_cons, Call.Failed, Move.command?, Call.reply?] using ih
    | awaitAck acknowledged =>
      simpa [List.filterMap_cons, Call.Failed, Move.command?, Call.reply?, acknowledged] using ih
  | stop moves fails =>
    cases fails with
    | send bytes e => simp [Call.Failed]
    | missed c e => simp [Call.Failed]
    | mismatch refuted => simp [Call.Failed, Move.command?, Call.reply?, refuted]

end Follows

/-- Replies to calls that all succeed acknowledge the commands. -/
theorem acknowledged_of_succeeds {moves : List Move} {calls : List Call}
    (h : List.Forall₂ Move.Succeeds moves calls) :
    List.Forall₂ Acknowledges (moves.filterMap Move.command?) (calls.filterMap Call.reply?) := by
  induction h with
  | nil => exact .nil
  | cons succeeds _ ih =>
    cases succeeds with
    | send bytes => exact ih
    | awaitAck acknowledged => exact .cons acknowledged ih

/-! ## Exchanges -/

/-- However the socket behaves, the calls that the exchange makes follow the moves, and end as the
socket has them end. -/
def Performs (x : Exchange Unit) (moves : List Move) : Prop :=
  ∀ s : Socket, ∃ made result events, x s = (result, { made.foldl Socket.after s with events }) ∧
    s.EndsAll made ∧ Follows moves made result

theorem Performs.bind {x y : Exchange Unit} {moves others : List Move} (first : Performs x moves)
    (second : Performs y others) : Performs (x >>= fun _ => y) (moves ++ others) := by
  intro s
  obtain ⟨made, result, events, run_eq, ends, follows⟩ := first s
  cases result with
  | error failure =>
    exact ⟨made, .error failure, events, Outcome.bind_of_error run_eq, ends,
      follows.append_of_error others⟩
  | ok _ =>
    obtain ⟨more, result, events', run_eq', ends', follows'⟩ :=
      second { made.foldl Socket.after s with events }
    refine ⟨made ++ more, result, events', ?_,
      Socket.endsAll_append.2 ⟨ends, Socket.endsAll_events.1 ends'⟩, follows.append follows'⟩
    rw [Outcome.bind_of_ok run_eq, run_eq', Socket.foldl_after_events, List.foldl_append]

theorem performs_emit (e : Event) : Performs (emit e) [] :=
  fun _ => ⟨[], .ok (), _, rfl, trivial, .done⟩

theorem toList_calls_record (s : Socket) (call : Call) :
    (s.record call).calls.toList = s.calls.toList ++ [call] := Array.toList_push

theorem sendPacket_of_taken {s : Socket} (h : s.refusal = none) (bytes : Bytes) :
    sendPacket bytes s =
      (.ok (), { s with refusals := s.refusals.tail }.record (.sent bytes)) := by
  simp only [sendPacket, h]

theorem performs_sendPacket (bytes : Bytes) : Performs (sendPacket bytes) [.send bytes] := by
  intro s
  cases refusal_eq : s.refusal with
  | none =>
    exact ⟨[.sent bytes], _, s.events, sendPacket_of_taken refusal_eq bytes, ⟨refusal_eq, trivial⟩,
      .next (.send bytes) .done⟩
  | some e =>
    refine ⟨[.refused bytes e], .error (.io e), s.events, ?_, ⟨refusal_eq, trivial⟩,
      .stop [] (.send bytes e)⟩
    simp only [sendPacket, refusal_eq]
    rfl

theorem receivePacket_of_data {s : Socket} {bytes : Bytes} {rest : List Arrival}
    (h : s.incoming = .data bytes :: rest) : receivePacket s =
      (.ok (bytes.extract 0 replySize),
        { s with incoming := rest }.record (.received (bytes.extract 0 replySize))) := by
  simp only [receivePacket, h]

/-- A reply that does not come is missed as the socket has it. -/
theorem receivePacket_of_missed {s : Socket} {e : IoError} (ends : s.Ends (.missed e)) :
    receivePacket s = (.error (.io e), s.after (.missed e)) := by
  rcases ends with failure | ⟨nothing, rfl⟩
  · obtain ⟨rest, incoming_eq⟩ := List.head?_eq_some_iff.1 failure
    simp only [receivePacket, Socket.after, incoming_eq, List.tail_cons]
  · obtain ⟨incoming, refusals, sendError, calls, events⟩ := s
    cases nothing
    rfl

/-- An acknowledgement is waited for in one call, and told of if it comes. -/
theorem expectAck_of_acknowledged {c : Command} {s s' : Socket} {reply : Bytes}
    (received : receivePacket s = (.ok reply, s')) (acknowledged : Acknowledges c reply) :
    ∃ e, e ≠ .progress ∧ expectAck c s = (.ok (), { s' with events := s'.events.push e }) := by
  let acknowledgement : Log.Record :=
    { level := .debug, target := "sweetada_link::bba", message := c.text ++ " acknowledged" }
  refine ⟨.log acknowledgement, nofun, ?_⟩
  rw [expectAck, Outcome.bind_of_ok received, if_pos (acknowledges_iff.2 acknowledged)]
  rfl

theorem expectAck_of_mismatch {c : Command} {s s' : Socket} {reply : Bytes}
    (received : receivePacket s = (.ok reply, s')) (refuted : ¬ Acknowledges c reply) :
    expectAck c s = (.error (.badAck c.text reply), s') := by
  rw [expectAck, Outcome.bind_of_ok received, if_neg (mt acknowledges_iff.1 refuted)]
  rfl

theorem performs_expectAck (c : Command) : Performs (expectAck c) [.awaitAck c] := by
  intro s
  have miss {e : IoError} (ends : s.Ends (.missed e)) :
      ∃ made result events, expectAck c s = (result, { made.foldl Socket.after s with events }) ∧
        s.EndsAll made ∧ Follows [.awaitAck c] made result :=
    ⟨[.missed e], .error (.io e), s.events, Outcome.bind_of_error (receivePacket_of_missed ends),
      ⟨ends, trivial⟩, .stop [] (.missed c e)⟩
  match incoming_eq : s.incoming with
  | [] => exact miss (.inr ⟨incoming_eq, rfl⟩)
  | .failure e :: rest => exact miss (.inl (by rw [incoming_eq, List.head?_cons]))
  | .data bytes :: rest =>
    have received : receivePacket s = (.ok (bytes.extract 0 replySize),
        s.after (.received (bytes.extract 0 replySize))) := by
      rw [receivePacket_of_data incoming_eq, Socket.after, incoming_eq, List.tail_cons]
    have ends : s.EndsAll [.received (bytes.extract 0 replySize)] :=
      ⟨⟨bytes, by rw [incoming_eq, List.head?_cons], rfl⟩, trivial⟩
    by_cases acknowledged : Acknowledges c (bytes.extract 0 replySize)
    · obtain ⟨e, -, run_eq⟩ := expectAck_of_acknowledged received acknowledged
      exact ⟨_, _, _, run_eq, ends, .next (.awaitAck acknowledged) .done⟩
    · exact ⟨_, _, s.events, expectAck_of_mismatch received acknowledged, ends,
        .stop [] (.mismatch acknowledged)⟩

theorem performs_transact (c : Command) (address size : UInt32) :
    Performs (transact c address size) [.send (packet c address size #[]), .awaitAck c] :=
  (performs_sendPacket _).bind (performs_expectAck c)

theorem performs_sendPieces (address : UInt32) (pieces : List Bytes) :
    Performs (sendPieces address pieces) ((parts address pieces).map .send) := by
  induction pieces generalizing address with
  | nil => exact fun s => ⟨[], .ok (), s.events, rfl, trivial, .done⟩
  | cons piece rest ih =>
    exact (performs_sendPacket _).bind ((performs_emit .progress).bind (ih _))

end BareMetal.Target.Loader
