import BareMetal.Proofs.Target.LoaderCalls

/-!
# Uploads that are acknowledged

On a socket that takes every packet, an upload whose beginning and end are acknowledged sends the
whole binary: a receiver that stores what the packets carry has it at its address, byte by byte and
in order, and nothing else is stored (`upload_delivers`).
-/

namespace BareMetal.Target.Loader

/-! ## Sockets that take everything -/

/-- Every packet is taken. -/
structure Socket.Accepting (s : Socket) : Prop where
  refusals : ∀ r ∈ s.refusals, r = none
  sendError : s.sendError = none

theorem Socket.Accepting.refusal_eq {s : Socket} (h : s.Accepting) : s.refusal = none := by
  rw [refusal]
  split
  · rename_i next rest refusals_eq
    exact h.refusals next (by simp [refusals_eq])
  · rw [h.sendError]
    rfl

/-- Between two states of a socket that takes every packet some calls were made and some events
happened. -/
structure Went (s s' : Socket) (made : List Call) (happened : List Event) : Prop where
  accepting : s'.Accepting
  calls : s'.calls.toList = s.calls.toList ++ made
  events : s'.events.toList = s.events.toList ++ happened

theorem Went.trans {s s' s'' : Socket} {made more : List Call} {happened later : List Event}
    (first : Went s s' made happened) (second : Went s' s'' more later) :
    Went s s'' (made ++ more) (happened ++ later) where
  accepting := second.accepting
  calls := by rw [second.calls, first.calls, List.append_assoc]
  events := by rw [second.events, first.events, List.append_assoc]

section

variable {s : Socket}

theorem sendPacket_of_accepting (h : s.Accepting) (bytes : Bytes) : ∃ s',
    sendPacket bytes s = (.ok (), s') ∧ Went s s' [.sent bytes] [] ∧ s'.incoming = s.incoming := by
  refine ⟨_, sendPacket_of_taken h.refusal_eq bytes, ⟨⟨?_, h.sendError⟩, ?_, ?_⟩, rfl⟩
  · exact fun r mem => h.refusals r (List.mem_of_mem_tail mem)
  · exact toList_calls_record _ _
  · exact (List.append_nil _).symm

theorem acknowledges_extract {c : Command} {reply : Bytes} (h : Acknowledges c reply) :
    Acknowledges c (reply.extract 0 replySize) := by
  rw [Acknowledges, Array.toList_extract, List.extract_eq_take_drop, List.drop_zero,
    List.prefix_take_iff]
  exact ⟨h, by rw [List.length_take]; exact Nat.le_trans (Nat.min_le_left _ _) (by decide)⟩

theorem expectAck_of_accepting (h : s.Accepting) {c : Command} {reply : Bytes}
    {rest : List Arrival} (incoming_eq : s.incoming = .data reply :: rest)
    (acknowledged : Acknowledges c reply) : ∃ s' e, expectAck c s = (.ok (), s') ∧
      s'.incoming = rest ∧ e ≠ .progress ∧
      Went s s' [.received (reply.extract 0 replySize)] [e] := by
  obtain ⟨e, other, acked⟩ := expectAck_of_acknowledged (receivePacket_of_data incoming_eq)
    (acknowledges_extract acknowledged)
  exact ⟨_, e, acked, rfl, other, ⟨h.refusals, h.sendError⟩, toList_calls_record _ _,
    Array.toList_push⟩

theorem transact_of_accepting (h : s.Accepting) {c : Command} {reply : Bytes}
    {rest : List Arrival} (incoming_eq : s.incoming = .data reply :: rest)
    (acknowledged : Acknowledges c reply) (address size : UInt32) : ∃ s' e,
    transact c address size s = (.ok (), s') ∧ s'.incoming = rest ∧ e ≠ .progress ∧
      Went s s' [.sent (packet c address size #[]), .received (reply.extract 0 replySize)] [e] := by
  obtain ⟨asked, sent, went, asked_incoming⟩ :=
    sendPacket_of_accepting h (packet c address size #[])
  obtain ⟨s', e, acked, rest_eq, other, acked_went⟩ :=
    expectAck_of_accepting went.accepting (asked_incoming.trans incoming_eq) acknowledged
  exact ⟨s', e, (Outcome.bind_of_ok sent).trans acked, rest_eq, other, went.trans acked_went⟩

theorem sendPieces_of_accepting (h : s.Accepting) (address : UInt32) (pieces : List Bytes) :
    ∃ s', sendPieces address pieces s = (.ok (), s') ∧ s'.incoming = s.incoming ∧
      Went s s' ((parts address pieces).map .sent) (List.replicate pieces.length .progress) := by
  induction pieces generalizing s address with
  | nil => exact ⟨s, rfl, rfl, h, (List.append_nil _).symm, (List.append_nil _).symm⟩
  | cons piece rest ih =>
    obtain ⟨s₁, sent, went, incoming_eq⟩ :=
      sendPacket_of_accepting h (packet .partBinary address (.ofNat piece.size) piece)
    have shown : Went s₁ { s₁ with events := s₁.events.push .progress } [] [.progress] :=
      ⟨⟨went.accepting.refusals, went.accepting.sendError⟩, (List.append_nil _).symm,
        Array.toList_push⟩
    obtain ⟨s', others, others_incoming, others_went⟩ :=
      ih shown.accepting (address + .ofNat piece.size)
    refine ⟨s', ?_, others_incoming.trans incoming_eq, (went.trans shown).trans others_went⟩
    rw [sendPieces, send, Outcome.bind_of_ok sent]
    exact others

end

/-! ## What arrives -/

/-- Some packets carry a binary to an address.  Each of them is a head and as many bytes as the head
says, and only the last carries less than a full load.  A receiver that stores what they carry
stores the bytes of the binary in order, each at an address of its own, and nothing else. -/
structure Carries (load : UInt32) (data : Bytes) (packets : List Bytes) : Prop where
  length_eq : packets.length = ceilDiv data.size chunkSize
  heads : ∀ i bytes, packets[i]? = some bytes → ∃ h : Header, Header.ofBytes? bytes = some h ∧
    h.tag = Command.partBinary.tag ∧ h.address = load + .ofNat (i * chunkSize) ∧
    h.toBytes.size = 12 ∧ bytes = h.toBytes ++ payload bytes ∧
    (payload bytes).size = h.size.toNat ∧ 1 ≤ h.size.toNat ∧ h.size.toNat ≤ chunkSize ∧
    (i + 1 < packets.length → h.size.toNat = chunkSize)
  total : ((packets.filterMap Header.ofBytes?).map fun h => h.size.toNat).sum = data.size
  stored : (packets.flatMap stores).length = data.size ∧ ∀ i (_ : i < data.size),
    (packets.flatMap stores)[i]? = some (load + .ofNat i, data[i])
  once : ((packets.flatMap stores).map Prod.fst).Nodup
  inside : ∀ (m : Memory) i (_ : i < data.size),
    m.storeAll (packets.flatMap stores) (load + .ofNat i) = data[i]
  outside : ∀ (m : Memory) a, (∀ i < data.size, a ≠ load + .ofNat i) →
    m.storeAll (packets.flatMap stores) a = m a

theorem heads_parts (address : UInt32) (pieces : List Bytes) :
    ((parts address pieces).filterMap Header.ofBytes?).map (fun h => h.size.toNat) =
      pieces.map fun piece => (UInt32.ofNat piece.size).toNat := by
  induction pieces generalizing address with
  | nil => rfl
  | cons piece rest ih =>
    rw [parts, List.filterMap_cons_some (ofBytes?_packet _ _ _ _), List.map_cons, List.map_cons, ih]

/-- The size of a part fits its head. -/
theorem size_of_mem_chunks {data piece : Bytes} (mem : piece ∈ Bytes.chunks chunkSize data) :
    0 < piece.size ∧ piece.size ≤ chunkSize ∧ (UInt32.ofNat piece.size).toNat = piece.size := by
  obtain ⟨filled, fits⟩ := Bytes.size_of_mem_chunks (by decide) mem
  exact ⟨filled, fits, UInt32.toNat_ofNat_of_lt' (Nat.lt_of_le_of_lt fits (by decide))⟩

/-- A part stands as many full loads behind the address as there are parts before it. -/
theorem packet_of_getElem?_binaryParts {load : UInt32} {data bytes : Bytes} {i : Nat}
    (at_i : (binaryParts load data)[i]? = some bytes) :
    ∃ piece ∈ Bytes.chunks chunkSize data,
      bytes = packet .partBinary (load + .ofNat (i * chunkSize)) (.ofNat piece.size) piece ∧
      (i + 1 < (binaryParts load data).length → piece.size = chunkSize) := by
  rw [binaryParts, getElem?_parts, Option.map_eq_some_iff] at at_i
  obtain ⟨piece, piece_at, rfl⟩ := at_i
  have before : (Bytes.join ((Bytes.chunks chunkSize data).take i)).size = i * chunkSize :=
    Bytes.size_join_take_chunks (by decide) (List.getElem?_eq_some_iff.1 piece_at).1
  rw [before, binaryParts, length_parts]
  exact ⟨piece, List.mem_of_getElem? piece_at, rfl,
    Bytes.size_of_getElem?_chunks (by decide) piece_at⟩

theorem carries_binaryParts (load : UInt32) {data : Bytes} (small : data.size < Word32.bound) :
    Carries load data (binaryParts load data) := by
  have stores_eq : (binaryParts load data).flatMap stores = placed load data := by
    rw [binaryParts, stores_parts, Bytes.join_chunks (by decide)]
  have nodup := nodup_placed load (Nat.le_of_lt small)
  have at_index {i : Nat} (hi : i < data.size) :
      (placed load data)[i]? = some (load + .ofNat i, data[i]) := by
    rw [getElem?_placed, Array.getElem?_eq_getElem hi]
    rfl
  refine ⟨?_, fun i bytes at_i => ?_, ?_, ?_, ?_, fun m i hi => ?_, fun m a apart => ?_⟩
  · rw [binaryParts, length_parts, Bytes.length_chunks]
  · obtain ⟨piece, mem, rfl, full⟩ := packet_of_getElem?_binaryParts at_i
    obtain ⟨filled, fits, size_eq⟩ := size_of_mem_chunks mem
    rw [payload_packet]
    refine ⟨_, ofBytes?_packet _ _ _ _, rfl, rfl, size_head _ _ _, rfl, size_eq.symm, ?_, ?_, ?_⟩
    · exact size_eq.symm ▸ filled
    · exact size_eq.symm ▸ fits
    · exact fun more => size_eq.trans (full more)
  · have sizes_eq : (Bytes.chunks chunkSize data).map (fun p => (UInt32.ofNat p.size).toNat) =
        (Bytes.chunks chunkSize data).map Array.size :=
      List.map_congr_left fun piece mem => (size_of_mem_chunks mem).2.2
    rw [binaryParts, heads_parts, sizes_eq, ← Bytes.size_join, Bytes.join_chunks (by decide)]
  · rw [stores_eq]
    exact ⟨length_placed _ _, fun i hi => at_index hi⟩
  · rwa [stores_eq]
  · rw [stores_eq]
    exact Memory.storeAll_inside nodup (List.mem_of_getElem? (at_index hi)) m
  · rw [stores_eq]
    refine Memory.storeAll_outside (fun mem => ?_) m
    obtain ⟨i, hi, rfl⟩ := exists_of_mem_placed mem
    exact apart i hi rfl

/-- An upload whose beginning and end are acknowledged, on a socket that takes every packet. -/
theorem upload_delivers (load : UInt32) {data : Bytes} (small : data.size < Word32.bound)
    {s : Socket} (accepting : s.Accepting) {r₁ r₂ : Bytes} {rest : List Arrival}
    (incoming_eq : s.incoming = .data r₁ :: .data r₂ :: rest) (begins : BeginsWith "LBI" r₁)
    (ends : BeginsWith "DBI" r₂) :
    ∃ s' first packets last happened, upload load data s = (.ok (), s') ∧ s'.incoming = rest ∧
      s'.sent.toList = s.sent.toList ++ (first :: (packets ++ [last])) ∧
      s'.sent.size = s.sent.size + (2 + ceilDiv data.size 1024) ∧
      (first.size = 12 ∧ ∃ h, Header.ofBytes? first = some h ∧ h.tag = Command.loadBinary.tag ∧
        h.address = load ∧ h.size.toNat = data.size) ∧
      Carries load data packets ∧
      (last.size = 12 ∧ Header.ofBytes? last = some ⟨Command.doneBinary.tag, 0, 0⟩) ∧
      (first :: (packets ++ [last])).flatMap stores = packets.flatMap stores ∧
      s'.events.toList = s.events.toList ++ happened ∧
      happened.count .progress = packets.length := by
  have size_eq : (UInt32.ofNat data.size).toNat = data.size := UInt32.toNat_ofNat_of_lt' small
  have acknowledged₁ : Acknowledges .loadBinary r₁ := begins
  have acknowledged₂ : Acknowledges .doneBinary r₂ := ends
  obtain ⟨s₁, e₁, began, incoming₁, other₁, went₁⟩ :=
    transact_of_accepting accepting incoming_eq acknowledged₁ load (.ofNat data.size)
  obtain ⟨s₂, sent, incoming₂, went₂⟩ :=
    sendPieces_of_accepting went₁.accepting load (Bytes.chunks chunkSize data)
  obtain ⟨s', e₂, ended, rest_eq, other₂, went₃⟩ :=
    transact_of_accepting went₂.accepting (incoming₂.trans incoming₁) acknowledged₂ 0 0
  have went := (went₁.trans went₂).trans went₃
  have carries := carries_binaryParts load small
  have sent_eq : s'.sent.toList = s.sent.toList ++
      (packet .loadBinary load (.ofNat data.size) #[] ::
        (binaryParts load data ++ [packet .doneBinary 0 0 #[]])) := by
    have taken : ((binaryParts load data).map Call.sent).filterMap Call.packet? =
        binaryParts load data := by
      rw [List.filterMap_map]
      exact List.filterMap_some
    rw [binaryParts] at taken
    simp [Socket.sent, went.calls, List.filterMap_append, List.filterMap_cons, binaryParts, taken,
      Call.packet?]
  refine ⟨s', _, binaryParts load data, _, _, ?_, rest_eq, sent_eq, ?_,
    ⟨?_, _, ofBytes?_packet _ _ _ _, rfl, rfl, size_eq⟩, carries, ⟨?_, ofBytes?_packet _ _ _ _⟩,
    ?_, went.events, ?_⟩
  · rw [upload, if_neg (Nat.not_le.2 small)]
    exact (Outcome.bind_of_ok began).trans ((Outcome.bind_of_ok sent).trans ended)
  · rw [← Array.length_toList, sent_eq, List.length_append, List.length_cons, List.length_append,
      Array.length_toList, carries.length_eq, List.length_singleton, chunkSize]
    omega
  · exact size_packet _ _ _ _
  · exact size_packet _ _ _ _
  · rw [List.flatMap_cons, List.flatMap_append, List.flatMap_singleton,
      stores_of_ne (by decide), stores_of_ne (by decide), List.nil_append, List.append_nil]
  · rw [List.count_append, List.count_append, List.count_singleton, List.count_singleton,
      List.count_replicate_self, carries.length_eq, Bytes.length_chunks]
    simp [other₁, other₂]

/-- Two bytes at the last address and the first. -/
theorem upload_delivers_past_the_last_address :
    let data : Bytes := #[0xAA, 0xBB]
    let s : Socket := { incoming := [.data (Bytes.ofText "LBIN"), .data (Bytes.ofText "DBI")] }
    data.size < Word32.bound ∧ s.Accepting ∧ ∃ s' packets,
      upload 0xFFFFFFFF data s = (.ok (), s') ∧ s'.sent.size = 3 ∧
      Carries 0xFFFFFFFF data packets ∧
      ∀ m : Memory, m.storeAll (packets.flatMap stores) 0 = 0xBB := by
  intro data s
  have small : data.size < Word32.bound := by decide
  have accepting : s.Accepting := ⟨nofun, rfl⟩
  obtain ⟨s', first, packets, last, happened, run_eq, -, -, size_eq, -, carries, -⟩ :=
    upload_delivers 0xFFFFFFFF small accepting rfl ⟨[0x4E], rfl⟩ ⟨[], rfl⟩
  have nothing_sent : s.sent.size + (2 + ceilDiv data.size 1024) = 3 := by decide
  exact ⟨small, accepting, s', packets, run_eq, size_eq.trans nothing_sent, carries,
    fun m => carries.inside m 1 (by decide)⟩

end BareMetal.Target.Loader
