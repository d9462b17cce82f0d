import BareMetal.Proofs.Target.LoaderCalls

/-!
# Runs of a loader

The moves that bring a binary to an address and start it.  The acknowledgement of a command is
waited for right behind its packet (`AwaitsBehindSends.startMoves`), and the packet that starts the
binary is the last of all (`eq_uploadMoves_of_execute`).  So a binary is started only behind the
acknowledgements of its beginning and of its end, whatever the socket does, and it is started unless
a call fails (`start_follows_acknowledgements`).
-/

namespace BareMetal.Target.Loader

/-! ## Uploads -/

/-- The moves that bring a binary to an address. -/
def uploadMoves (load : UInt32) (data : Bytes) : List Move :=
  [.send (packet .loadBinary load (.ofNat data.size) #[]), .awaitAck .loadBinary] ++
    ((binaryParts load data).map .send ++
      [.send (packet .doneBinary 0 0 #[]), .awaitAck .doneBinary])

theorem performs_upload (load : UInt32) {data : Bytes} (small : data.size < Word32.bound) :
    Performs (upload load data) (uploadMoves load data) := by
  rw [upload, if_neg (Nat.not_le.2 small)]
  exact (performs_transact _ _ _).bind
    ((performs_sendPieces _ _).bind (performs_transact _ _ _))

/-- Brings a binary to an address, and starts it if that went well. -/
def uploadAndExecute (load start : UInt32) (data : Bytes) : Exchange Unit := do
  upload load data
  execute start

/-- The moves that bring a binary to an address and start it. -/
def startMoves (load start : UInt32) (data : Bytes) : List Move :=
  uploadMoves load data ++ [.send (packet .execute start 0 #[]), .awaitAck .execute]

/-- The packets that bring a binary to an address and start it. -/
def startPackets (load start : UInt32) (data : Bytes) : List Bytes :=
  packet .loadBinary load (.ofNat data.size) #[] ::
    (binaryParts load data ++ [packet .doneBinary 0 0 #[], packet .execute start 0 #[]])

section

variable {load start : UInt32} {data : Bytes}

theorem performs_uploadAndExecute (small : data.size < Word32.bound) :
    Performs (uploadAndExecute load start data) (startMoves load start data) :=
  (performs_upload load small).bind (performs_transact _ _ _)

/-- The letters of its command tell a packet from those of other commands, and its address tells a
part of the binary from the other parts. -/
theorem nodup_startPackets (small : data.size < Word32.bound) :
    (startPackets load start data).Nodup := by
  have parts_nodup : (binaryParts load data).Nodup := by
    refine nodup_parts load (fun p mem => (Bytes.size_of_mem_chunks (by decide) mem).1) ?_
    rw [Bytes.join_chunks (by decide)]
    exact Nat.le_of_lt small
  have apart {c c' : Command} (other : c ≠ c') {bytes bytes' : Bytes} (h : IsOf c bytes)
      (h' : IsOf c' bytes') : bytes ≠ bytes' := by
    rintro rfl
    exact other (h.unique h')
  have begins := isOf_packet .loadBinary load (.ofNat data.size) #[]
  have ends := isOf_packet .doneBinary 0 0 #[]
  have starts := isOf_packet .execute start 0 #[]
  rw [startPackets, List.nodup_cons, List.nodup_append, List.mem_append]
  refine ⟨?_, parts_nodup, ?_, ?_⟩
  · rintro (mem | mem)
    · exact apart (by decide) begins (isOf_of_mem_parts mem) rfl
    · simp only [List.mem_cons, List.not_mem_nil, or_false] at mem
      exact mem.elim (apart (by decide) begins ends) (apart (by decide) begins starts)
  · simpa using apart (by decide) ends starts
  · intro part mem other other_mem
    simp only [List.mem_cons, List.not_mem_nil, or_false] at other_mem
    rcases other_mem with rfl | rfl
    · exact apart (by decide) (isOf_of_mem_parts mem) ends
    · exact apart (by decide) (isOf_of_mem_parts mem) starts

theorem packets_startMoves :
    (startMoves load start data).filterMap Move.packet? = startPackets load start data := by
  have sends : ((binaryParts load data).map Move.send).filterMap Move.packet? =
      binaryParts load data := by
    rw [List.filterMap_map]
    exact List.filterMap_some
  simp [startMoves, uploadMoves, startPackets, List.filterMap_append, List.filterMap_cons, sends,
    Move.packet?]

theorem commands_uploadMoves :
    (uploadMoves load data).filterMap Move.command? = [.loadBinary, .doneBinary] := by
  have sends : ((binaryParts load data).map Move.send).filterMap Move.command? = [] := by
    simp [Move.command?]
  simp [uploadMoves, List.filterMap_append, List.filterMap_cons, sends, Move.command?]

theorem commands_startMoves :
    (startMoves load start data).filterMap Move.command? =
      [.loadBinary, .doneBinary, .execute] := by
  rw [startMoves, List.filterMap_append, commands_uploadMoves]
  rfl

/-! ## The order of the moves -/

/-- A packet of the upload does not start anything. -/
theorem not_execute_of_mem {bytes : Bytes} (h : .send bytes ∈ uploadMoves load data) :
    ¬ IsOf .execute bytes := by
  intro starts
  simp only [uploadMoves, List.mem_append, List.mem_cons, List.mem_map, Move.send.injEq,
    reduceCtorEq, List.not_mem_nil, or_false, exists_eq_right] at h
  rcases h with rfl | mem | rfl
  · exact absurd (starts.unique (isOf_packet _ _ _ _)) (by decide)
  · exact absurd (starts.unique (isOf_of_mem_parts mem)) (by decide)
  · exact absurd (starts.unique (isOf_packet _ _ _ _)) (by decide)

/-- A packet that starts something is sent behind the whole upload. -/
theorem eq_uploadMoves_of_execute {before after : List Move} {bytes : Bytes}
    (h : startMoves load start data = before ++ .send bytes :: after)
    (starts : IsOf .execute bytes) : before = uploadMoves load data := by
  rcases List.append_eq_append_iff.1 h with ⟨more, rfl, tail_eq⟩ | ⟨more, upload_eq, tail_eq⟩
  · match more with
    | [] => exact List.append_nil _
    | [m] => simp at tail_eq
    | m :: m' :: more => simp at tail_eq
  · cases more with
    | nil => rw [upload_eq, List.append_nil]
    | cons m more =>
      obtain ⟨rfl, -⟩ := List.cons.inj tail_eq
      have mem : .send bytes ∈ uploadMoves load data := by
        rw [upload_eq]
        simp
      exact absurd starts (not_execute_of_mem mem)

end

/-- Every acknowledgement is waited for right behind the packet of its command. -/
def AwaitsBehindSends (moves : List Move) : Prop :=
  ∀ before c after, moves = before ++ .awaitAck c :: after →
    ∃ bytes, before.getLast? = some (.send bytes) ∧ IsOf c bytes

namespace AwaitsBehindSends

theorem append {moves others : List Move} (h : AwaitsBehindSends moves)
    (h' : AwaitsBehindSends others) : AwaitsBehindSends (moves ++ others) := by
  intro before c after split_eq
  rcases List.append_eq_append_iff.1 split_eq with ⟨more, rfl, others_eq⟩ | ⟨more, rfl, tail_eq⟩
  · obtain ⟨bytes, last_eq, isOf⟩ := h' more c after others_eq
    exact ⟨bytes, by rw [List.getLast?_append, last_eq]; rfl, isOf⟩
  · cases more with
    | nil =>
      obtain ⟨bytes, last_eq, isOf⟩ := h' [] c after tail_eq.symm
      cases last_eq
    | cons m more =>
      obtain ⟨rfl, -⟩ := List.cons.inj tail_eq
      exact h before c more rfl

theorem sends (packets : List Bytes) : AwaitsBehindSends (packets.map .send) := by
  intro before c after split_eq
  have mem : Move.awaitAck c ∈ packets.map .send := by
    rw [split_eq]
    simp
  simp at mem

theorem transact (c : Command) (address size : UInt32) :
    AwaitsBehindSends [.send (packet c address size #[]), .awaitAck c] := by
  intro before c' after split_eq
  match before with
  | [] => simp at split_eq
  | [m] =>
    simp only [List.cons_append, List.nil_append, List.cons.injEq, Move.awaitAck.injEq] at split_eq
    obtain ⟨rfl, rfl, -⟩ := split_eq
    exact ⟨_, rfl, isOf_packet _ _ _ _⟩
  | m :: m' :: more => simp at split_eq

theorem startMoves (load start : UInt32) (data : Bytes) :
    AwaitsBehindSends (startMoves load start data) :=
  ((transact _ _ _).append ((sends _).append (transact _ _ _))).append (transact _ _ _)

end AwaitsBehindSends

/-! ## Runs -/

/-- Calls that do what is asked of them take all packets. -/
theorem packets_of_succeeds {moves : List Move} {calls : List Call}
    (h : List.Forall₂ Move.Succeeds moves calls) :
    calls.filterMap Call.packet? = moves.filterMap Move.packet? := by
  induction h with
  | nil => rfl
  | cons succeeds _ ih =>
    cases succeeds with
    | send bytes => exact congrArg (bytes :: ·) ih
    | awaitAck _ => exact ih

/-- Calls that do what is asked of them end with the packet that the moves end with. -/
theorem getLast?_of_succeeds {moves : List Move} {calls : List Call} {bytes : Bytes}
    (h : List.Forall₂ Move.Succeeds moves calls) (last_eq : moves.getLast? = some (.send bytes)) :
    calls.getLast? = some (.sent bytes) := by
  obtain ⟨front, rfl⟩ := List.getLast?_eq_some_iff.1 last_eq
  have reversed := List.forall₂_reverse_iff.2 h
  rw [List.reverse_concat, List.forall₂_cons_left_iff] at reversed
  obtain ⟨call, others, succeeds, -, calls_eq⟩ := reversed
  cases succeeds
  rw [List.getLast?_eq_head?_reverse, calls_eq, List.head?_cons]

section

variable {load start : UInt32} {data : Bytes} {front back : List Call} {call : Call}
  {result : Except Error Unit}

/-- A reply is waited for only right behind the packet of a command that is acknowledged. -/
theorem awaited_behind_packet
    (h : Follows (startMoves load start data) (front ++ call :: back) result)
    (waits : call.handed? = none) : ∃ c ∈ [Command.loadBinary, .doneBinary, .execute],
      ∃ bytes, IsOf c bytes ∧ front.getLast? = some (.sent bytes) := by
  obtain ⟨before, m, after, moves_eq, made_for, all⟩ := h.of_split
  obtain ⟨c, rfl⟩ : ∃ c, m = .awaitAck c := by
    cases made_for with
    | sent bytes => cases waits
    | refused bytes e => cases waits
    | received c reply => exact ⟨c, rfl⟩
    | missed c e => exact ⟨c, rfl⟩
  obtain ⟨bytes, last_eq, isOf⟩ := AwaitsBehindSends.startMoves load start data _ _ _ moves_eq
  refine ⟨c, ?_, bytes, isOf, getLast?_of_succeeds all last_eq⟩
  have mem : c ∈ (startMoves load start data).filterMap Move.command? := by
    rw [moves_eq]
    exact List.mem_filterMap.2 ⟨.awaitAck c, by simp, rfl⟩
  rwa [commands_startMoves] at mem

/-- A packet that starts the binary is handed over only behind two acknowledgements, of the
beginning and of the end of the upload. -/
theorem acknowledged_before_execute
    (h : Follows (startMoves load start data) (front ++ call :: back) result) {bytes : Bytes}
    (handed : call.handed? = some bytes) (starts : IsOf .execute bytes) :
    ∃ r₁ r₂, front.filterMap Call.reply? = [r₁, r₂] ∧
      BeginsWith "LBI" r₁ ∧ BeginsWith "DBI" r₂ := by
  obtain ⟨before, m, after, moves_eq, made_for, all⟩ := h.of_split
  obtain rfl : m = .send bytes := by
    cases made_for <;> simp_all [Call.handed?]
  rw [eq_uploadMoves_of_execute moves_eq starts] at all
  have acknowledged := acknowledged_of_succeeds all
  simp only [commands_uploadMoves, List.forall₂_cons_left_iff, List.forall₂_nil_left_iff]
    at acknowledged
  obtain ⟨r₁, _, begins, ⟨r₂, _, ends, rfl, rfl⟩, replies_eq⟩ := acknowledged
  exact ⟨r₁, r₂, replies_eq, begins, ends⟩

/-- All goes well exactly if the socket meets no error and the replies are the three
acknowledgements. -/
theorem eq_ok_iff_acknowledged {made : List Call}
    (h : Follows (startMoves load start data) made result) : result = .ok () ↔
      (∀ call ∈ made, ¬ call.Failed) ∧
        ∃ r₁ r₂ r₃, made.filterMap Call.reply? = [r₁, r₂, r₃] ∧
          BeginsWith "LBI" r₁ ∧ BeginsWith "DBI" r₂ ∧ BeginsWith "EXE" r₃ := by
  simp only [h.eq_ok_iff, commands_startMoves, List.forall₂_cons_left_iff,
    List.forall₂_nil_left_iff]
  constructor
  · rintro ⟨well, r₁, _, begins, ⟨r₂, _, ends, ⟨r₃, _, starts, rfl, rfl⟩, rfl⟩, replies_eq⟩
    exact ⟨well, r₁, r₂, r₃, replies_eq, begins, ends, starts⟩
  · rintro ⟨well, r₁, r₂, r₃, replies_eq, begins, ends, starts⟩
    exact ⟨well, r₁, _, begins, ⟨r₂, _, ends, ⟨r₃, _, starts, rfl, rfl⟩, rfl⟩, replies_eq⟩

end

/-- Whatever the socket does while a binary is brought to an address and then started, if the first
went well: every call ends as the socket has it end, and the packets taken are the first of those
that are to be sent, which are all different.  A call that is not the last did what it was made for,
a reply is waited for only right behind the packet of a command that is acknowledged, and a packet
that starts the binary is handed over only behind the acknowledgements of the beginning and of the
end of the upload.  All goes well exactly if the socket meets no error and the replies are the three
acknowledgements; then all moves have been made.  An error is that of the last call, and all moves
before the one that it was made for have succeeded. -/
theorem start_follows_acknowledgements (load start : UInt32) {data : Bytes}
    (small : data.size < Word32.bound) (s : Socket) :
    ∃ made result s', uploadAndExecute load start data s = (result, s') ∧
      s'.calls.toList = s.calls.toList ++ made ∧ s.EndsAll made ∧
      (startPackets load start data).Nodup ∧
      (∃ k, s'.sent.toList = s.sent.toList ++ (startPackets load start data).take k) ∧
      (∀ front call back, made = front ++ call :: back → ∃ before m after,
        startMoves load start data = before ++ m :: after ∧ call.MadeFor m ∧
        List.Forall₂ Move.Succeeds before front) ∧
      (∀ front call back, made = front ++ call :: back → call.handed? = none →
        ∃ c ∈ [Command.loadBinary, .doneBinary, .execute], ∃ bytes, IsOf c bytes ∧
          front.getLast? = some (.sent bytes)) ∧
      (∀ front call back bytes, made = front ++ call :: back → call.handed? = some bytes →
        IsOf .execute bytes → ∃ r₁ r₂, front.filterMap Call.reply? = [r₁, r₂] ∧
          BeginsWith "LBI" r₁ ∧ BeginsWith "DBI" r₂) ∧
      (result = .ok () ↔ (∀ call ∈ made, ¬ call.Failed) ∧
        ∃ r₁ r₂ r₃, made.filterMap Call.reply? = [r₁, r₂, r₃] ∧
          BeginsWith "LBI" r₁ ∧ BeginsWith "DBI" r₂ ∧ BeginsWith "EXE" r₃) ∧
      (result = .ok () → List.Forall₂ Move.Succeeds (startMoves load start data) made ∧
        s'.sent.toList = s.sent.toList ++ startPackets load start data) ∧
      ∀ failure, result = .error failure → ∃ before m after front call,
        startMoves load start data = before ++ m :: after ∧ made = front ++ [call] ∧
        List.Forall₂ Move.Succeeds before front ∧ m.Fails call failure := by
  obtain ⟨made, result, events, run_eq, ends, follows⟩ := performs_uploadAndExecute small s
  have calls_eq := Socket.toList_calls_after s made
  have sent_eq : (made.foldl Socket.after s).sent.toList =
      s.sent.toList ++ made.filterMap Call.packet? := by
    rw [Socket.sent, Socket.sent, Array.toList_filterMap, Array.toList_filterMap, calls_eq,
      List.filterMap_append]
  refine ⟨made, result, _, run_eq, calls_eq, ends, nodup_startPackets small, ?_,
    fun front call back made_eq => (made_eq ▸ follows).of_split,
    fun front call back made_eq => awaited_behind_packet (made_eq ▸ follows),
    fun front call back bytes made_eq => acknowledged_before_execute (made_eq ▸ follows),
    eq_ok_iff_acknowledged follows, ?_, ?_⟩
  · obtain ⟨others, prefix_eq⟩ := packets_startMoves ▸ follows.packets_prefix
    refine ⟨(made.filterMap Call.packet?).length, ?_⟩
    rw [← prefix_eq, List.take_left]
    exact sent_eq
  · rintro rfl
    refine ⟨follows.forall₂_of_ok, sent_eq.trans ?_⟩
    rw [packets_of_succeeds follows.forall₂_of_ok, packets_startMoves]
  · rintro failure rfl
    exact follows.of_error

/-- A run in which all three commands are acknowledged and the binary is started, and one in which
the end of the upload is acknowledged with too few letters. -/
theorem start_follows_acknowledgements_both_ways :
    let data : Bytes := #[0x01]
    let acknowledged : Socket := { incoming := [.data (Bytes.ofText "LBIN"),
      .data (Bytes.ofText "DBIN"), .data (Bytes.ofText "EXEC")] }
    let cutOff : Socket :=
      { incoming := [.data (Bytes.ofText "LBIN"), .data (Bytes.ofText "DB")] }
    data.size < Word32.bound ∧
    (∃ made s', uploadAndExecute 0x8C010000 0x8C010004 data acknowledged = (.ok (), s') ∧
      s'.calls.toList = made ∧ acknowledged.EndsAll made ∧
      List.Forall₂ Move.Succeeds (startMoves 0x8C010000 0x8C010004 data) made ∧
      s'.sent.toList = [packet .loadBinary 0x8C010000 1 #[],
        packet .partBinary 0x8C010000 1 #[0x01], packet .doneBinary 0 0 #[],
        packet .execute 0x8C010004 0 #[]]) ∧
    ∃ made s', uploadAndExecute 0x8C010000 0x8C010004 data cutOff =
        (.error (.badAck "DBIN" (Bytes.ofText "DB")), s') ∧
      s'.calls.toList = made ∧ cutOff.EndsAll made ∧
      (∃ k, s'.sent.toList = (startPackets 0x8C010000 0x8C010004 data).take k) ∧
      (∀ front call back bytes, made = front ++ call :: back → call.handed? = some bytes →
        IsOf .execute bytes → ∃ r₁ r₂, front.filterMap Call.reply? = [r₁, r₂] ∧
          BeginsWith "LBI" r₁ ∧ BeginsWith "DBI" r₂) ∧
      ∃ before m after front call, startMoves 0x8C010000 0x8C010004 data = before ++ m :: after ∧
        made = front ++ [call] ∧ List.Forall₂ Move.Succeeds before front ∧
        m.Fails call (.badAck "DBIN" (Bytes.ofText "DB")) := by
  intro data acknowledged cutOff
  have small : data.size < Word32.bound := by decide
  refine ⟨small, ?_, ?_⟩
  · obtain ⟨made, result, s', run_eq, calls_eq, ends, -, -, -, -, -, -, well, -⟩ :=
      start_follows_acknowledgements 0x8C010000 0x8C010004 small acknowledged
    have succeeds : (uploadAndExecute 0x8C010000 0x8C010004 #[0x01]
        { incoming := [.data (Bytes.ofText "LBIN"), .data (Bytes.ofText "DBIN"),
          .data (Bytes.ofText "EXEC")] }).1 = .ok () := rfl
    obtain rfl := (congrArg Prod.fst run_eq).symm.trans succeeds
    obtain ⟨all, sent_eq⟩ := well rfl
    have packets_eq : startPackets 0x8C010000 0x8C010004 #[0x01] =
        [packet .loadBinary 0x8C010000 1 #[], packet .partBinary 0x8C010000 1 #[0x01],
          packet .doneBinary 0 0 #[], packet .execute 0x8C010004 0 #[]] := by decide +kernel
    exact ⟨made, s', run_eq, calls_eq, ends, all, sent_eq.trans packets_eq⟩
  · obtain ⟨made, result, s', run_eq, calls_eq, ends, -, sent_eq, -, -, starts, -, -, fails⟩ :=
      start_follows_acknowledgements 0x8C010000 0x8C010004 small cutOff
    have failed : (uploadAndExecute 0x8C010000 0x8C010004 #[0x01]
        { incoming := [.data (Bytes.ofText "LBIN"), .data (Bytes.ofText "DB")] }).1 =
        .error (.badAck "DBIN" (Bytes.ofText "DB")) := rfl
    obtain rfl := (congrArg Prod.fst run_eq).symm.trans failed
    exact ⟨made, s', run_eq, calls_eq, ends, sent_eq, starts, fails _ rfl⟩

end BareMetal.Target.Loader
