import Jp2Render.Process.Run

/-!
Draining a stream into a sink. The bytes of a stream come in reads of any lengths; whichever way
they are cut, the sink ends up with the first bytes up to its limit, and has overflowed iff there
were more. The stream ends with the first read that delivers nothing, because it has no bytes or
because it fails, or when there are no more reads; draining takes the reads up to the end and leaves
those behind it. A reader therefore has a stream's contents iff the stream was read to its end and is
no longer than the limit.
-/

namespace Jp2Render

namespace Bytes

theorem flatten_cutAt (cuts : List Nat) (bytes : Bytes) : (bytes.cutAt cuts).flatten = bytes := by
  fun_induction cutAt cuts bytes with
  | case1 => rfl
  | case2 b bytes => simp
  | case3 cuts b bytes ih => exact ih
  | case4 rest cuts b bytes ih => simp [ih]

theorem nil_not_mem_cutAt (cuts : List Nat) (bytes : Bytes) : [] ∉ bytes.cutAt cuts := by
  fun_induction cutAt cuts bytes with
  | case1 => simp
  | case2 b bytes => simp
  | case3 cuts b bytes ih => exact ih
  | case4 rest cuts b bytes ih => simpa using ih

theorem cutAt_flatten (chunks : List Bytes) (nonempty : [] ∉ chunks) :
    cutAt (chunks.map List.length) chunks.flatten = chunks := by
  induction chunks with
  | nil => rfl
  | cons chunk chunks ih =>
      cases chunk with
      | nil => simp at nonempty
      | cons b bytes =>
          have tail := ih fun member => nonempty (List.mem_cons_of_mem _ member)
          simp [cutAt, tail]

end Bytes

structure Sink.Holds (sink : Sink) (limit : Int) (delivered : Bytes) : Prop where
  data : sink.data = delivered.take limit.toNat
  overflowed : sink.overflowed = true ↔ delivered ≠ [] ∧ limit < delivered.length

namespace Sink

theorem holds_empty (limit : Int) : empty.Holds limit [] := ⟨by simp [empty], by simp [empty]⟩

theorem holds_take {sink : Sink} {limit : Int} {delivered : Bytes}
    (holds : sink.Holds limit delivered) (chunk : Bytes) (nonempty : chunk ≠ []) :
    (sink.take limit chunk).Holds limit (delivered ++ chunk) := by
  have kept : sink.data.length = min limit.toNat delivered.length := by
    rw [holds.data, List.length_take]
  have more : 0 < chunk.length := List.length_pos_iff.mpr nonempty
  constructor
  · have room : (sink.room limit).toNat = limit.toNat - delivered.length := by
      unfold Sink.room
      omega
    rw [Sink.take, room, holds.data, List.take_append]
  · have fits : sink.room limit < chunk.length ↔ limit < delivered.length + chunk.length := by
      unfold Sink.room
      omega
    simp only [Sink.take, Bool.or_eq_true, holds.overflowed, decide_eq_true_eq, fits,
      List.length_append, Int.natCast_add, ne_eq, List.append_eq_nil_iff, nonempty, and_false,
      not_false_eq_true, true_and]
    omega

theorem holds_foldl {limit : Int} (chunks : List Bytes) (nonempty : [] ∉ chunks) {sink : Sink}
    {delivered : Bytes} (holds : sink.Holds limit delivered) :
    (chunks.foldl (take · limit) sink).Holds limit (delivered ++ chunks.flatten) := by
  -- the sink of the induction is any that holds what came before
  induction chunks generalizing sink delivered with
  | nil => simpa using holds
  | cons chunk chunks ih =>
      have head : chunk ≠ [] := fun same => nonempty (same ▸ List.mem_cons_self)
      have tail := ih (fun member => nonempty (List.mem_cons_of_mem _ member))
        (holds_take holds chunk head)
      simpa using tail

theorem Holds.unique {sink other : Sink} {limit : Int} {delivered : Bytes}
    (holds : sink.Holds limit delivered) (holds' : other.Holds limit delivered) : sink = other := by
  have data : sink.data = other.data := holds.data.trans holds'.data.symm
  have overflowed : sink.overflowed = other.overflowed :=
    Bool.eq_iff_iff.mpr (holds.overflowed.trans holds'.overflowed.symm)
  cases sink
  cases other
  congr

end Sink

namespace Read

def bytes : Read → Bytes
  | .chunk bytes => bytes
  | .fault _ => []

def fault? : Read → Option ReadFault
  | .chunk _ => none
  | .fault cause => some cause

def delivers (read : Read) : Bool := !read.bytes.isEmpty

def chunks (reads : List Read) : List Bytes := (reads.takeWhile delivers).map bytes

def fromEnd (reads : List Read) : List Read := reads.dropWhile delivers

/-- The read that is the end, unless a stream ends for want of further reads. -/
def ending? (reads : List Read) : Option Read := (fromEnd reads).head?

def delivered (reads : List Read) : Bytes := (chunks reads).flatten

def IsEnded (reads : List Read) : Prop := ∀ read ∈ reads.head?, read.delivers = false

theorem isEnded_nil : IsEnded [] := by
  simp [IsEnded]

theorem isEnded_fault (fault : ReadFault) (rest : List Read) : IsEnded (.fault fault :: rest) := by
  simp [IsEnded, delivers, bytes]

theorem isEnded_fromEnd (reads : List Read) : IsEnded (fromEnd reads) := by
  intro read first
  have ends := List.head?_dropWhile_not delivers reads
  rwa [← fromEnd, Option.mem_def.mp first] at ends

theorem nil_not_mem_chunks (reads : List Read) : [] ∉ chunks reads := by
  induction reads with
  | nil => simp [chunks]
  | cons read reads ih =>
      by_cases some : read.delivers
      · have filled : read.bytes ≠ [] := by simpa [delivers] using some
        simpa [chunks, some, filled.symm] using ih
      · simp [chunks, some]

theorem chunks_append_fromEnd (reads : List Read) :
    (chunks reads).map .chunk ++ fromEnd reads = reads := by
  induction reads with
  | nil => rfl
  | cons read reads ih =>
      cases read with
      | fault fault => rfl
      | chunk bytes =>
          cases bytes with
          | nil => rfl
          | cons b bytes => exact congrArg (.chunk (b :: bytes) :: ·) ih

end Read

namespace Drained

theorem onto_chunks (limit : Int) (chunks : List Bytes) (nonempty : [] ∉ chunks) (sink : Sink)
    (rest : List Read) :
    onto limit sink (chunks.map .chunk ++ rest) =
      onto limit (chunks.foldl (Sink.take · limit) sink) rest := by
  induction chunks generalizing sink with
  | nil => rfl
  | cons chunk chunks ih =>
      cases chunk with
      | nil => simp at nonempty
      | cons b bytes => exact ih (fun member => nonempty (List.mem_cons_of_mem _ member)) _

theorem onto_ended (limit : Int) (sink : Sink) {rest : List Read} (ended : Read.IsEnded rest) :
    onto limit sink rest = ⟨sink, rest.head?.bind Read.fault?, rest.tail⟩ := by
  cases rest with
  | nil => rfl
  | cons read rest =>
      cases read with
      | fault fault => rfl
      | chunk bytes =>
          cases bytes with
          | nil => rfl
          | cons b bytes => exact Bool.noConfusion (ended _ rfl)

theorem ofReads_cut (limit : Int) {chunks : List Bytes} (nonempty : [] ∉ chunks) {rest : List Read}
    (ended : Read.IsEnded rest) :
    (ofReads limit (chunks.map .chunk ++ rest)).sink.Holds limit chunks.flatten ∧
      (ofReads limit (chunks.map .chunk ++ rest)).fault = rest.head?.bind Read.fault? ∧
      (ofReads limit (chunks.map .chunk ++ rest)).unread = rest.tail := by
  have holds := Sink.holds_foldl chunks nonempty (Sink.holds_empty limit)
  rw [List.nil_append] at holds
  rw [ofReads, onto_chunks limit chunks nonempty, onto_ended limit _ ended]
  exact ⟨holds, rfl, rfl⟩

/-- Just the reads up to the end are taken. The sink keeps the first bytes before the end, up to its
limit, and knows whether there were more; a fault is left if it was the end. So however the same bytes
are cut, and whatever ends them, the sink is the same. -/
theorem reads_up_to_end (limit : Nat) (reads : List Read) :
    (Read.chunks reads).map .chunk ++ (Read.ending? reads).toList ++ (ofReads limit reads).unread =
      reads ∧
    (ofReads limit reads).sink.data = (Read.delivered reads).take limit ∧
    ((ofReads limit reads).sink.overflowed = true ↔ limit < (Read.delivered reads).length) ∧
    (∀ fault, (ofReads limit reads).fault = some fault ↔
      Read.ending? reads = some (.fault fault)) ∧
    ∀ chunks : List Bytes, [] ∉ chunks → chunks.flatten = Read.delivered reads →
      ∀ rest, Read.IsEnded rest →
        (ofReads limit (chunks.map .chunk ++ rest)).sink = (ofReads limit reads).sink := by
  have cut := ofReads_cut limit (Read.nil_not_mem_chunks reads) (Read.isEnded_fromEnd reads)
  rw [Read.chunks_append_fromEnd] at cut
  obtain ⟨holds, fault, unread⟩ := cut
  refine ⟨?_, holds.data, ?_, ?_, ?_⟩
  · have rest : (Read.ending? reads).toList ++ (Read.fromEnd reads).tail = Read.fromEnd reads := by
      unfold Read.ending?
      cases Read.fromEnd reads <;> rfl
    rw [unread, List.append_assoc, rest, Read.chunks_append_fromEnd]
  · rw [holds.overflowed, Int.ofNat_lt]
    constructor
    · exact And.right
    · intro more
      exact ⟨List.ne_nil_of_length_pos (Nat.zero_lt_of_lt more), more⟩
  · intro cause
    rw [fault, ← Read.ending?]
    cases Read.ending? reads with
    | none => simp
    | some read => cases read <;> simp [Read.fault?]
  · -- the sink is told by the bytes, so two ways of cutting them fill it alike
    intro chunks nonempty same rest ended
    obtain ⟨recut, -, -⟩ := ofReads_cut limit nonempty ended
    rw [same] at recut
    exact recut.unique holds

/-- Four bytes for a limit of three, which end by a fault. Cut otherwise, they end by a read without
bytes. -/
theorem reads_up_to_end_recut :
    ([] : Bytes) ∉ [[1], [2, 3, 4]] ∧
      [[1], [2, 3, 4]].flatten =
        Read.delivered [.chunk [1, 2], .chunk [3, 4], .fault .closed, .chunk [5]] ∧
      Read.IsEnded [.chunk [], .chunk [5]] ∧
      ofReads 3 [.chunk [1, 2], .chunk [3, 4], .fault .closed, .chunk [5]] =
        ⟨⟨[1, 2, 3], true⟩, some .closed, [.chunk [5]]⟩ ∧
      (ofReads 3 [.chunk [1], .chunk [2, 3, 4], .chunk [], .chunk [5]]).sink =
        ⟨[1, 2, 3], true⟩ := by
  have nonempty : ([] : Bytes) ∉ [[1], [2, 3, 4]] := by decide
  have ended : Read.IsEnded [.chunk [], .chunk [5]] := by
    simp [Read.IsEnded, Read.delivers, Read.bytes]
  have drained : ofReads 3 [.chunk [1, 2], .chunk [3, 4], .fault .closed, .chunk [5]] =
      ⟨⟨[1, 2, 3], true⟩, some .closed, [.chunk [5]]⟩ := by decide
  obtain ⟨-, -, -, -, recut⟩ :=
    reads_up_to_end 3 [.chunk [1, 2], .chunk [3, 4], .fault .closed, .chunk [5]]
  have same := recut [[1], [2, 3, 4]] nonempty rfl [.chunk [], .chunk [5]] ended
  exact ⟨nonempty, rfl, ended, drained, same.trans (congrArg Drained.sink drained)⟩

theorem ofReads_stream (limit : Int) (stream : StreamBehaviour) :
    (ofReads limit stream.reads).sink.Holds limit stream.bytes ∧
      (ofReads limit stream.reads).fault =
        match stream.ending with
        | .fails fault => some fault
        | _ => none := by
  have nonempty := Bytes.nil_not_mem_cutAt stream.cuts stream.bytes
  have drained {rest : List Read} (ended : Read.IsEnded rest) :
      (ofReads limit (stream.chunks ++ rest)).sink.Holds limit stream.bytes ∧
        (ofReads limit (stream.chunks ++ rest)).fault = rest.head?.bind Read.fault? := by
    obtain ⟨holds, fault, -⟩ := ofReads_cut limit nonempty ended
    rw [Bytes.flatten_cutAt] at holds
    exact ⟨holds, fault⟩
  -- a stream that does not fail answers no reads after those that deliver its bytes
  have whole := drained Read.isEnded_nil
  rw [List.append_nil] at whole
  unfold StreamBehaviour.reads
  cases stream.ending with
  | fails fault => exact drained (Read.isEnded_fault fault [])
  | ends => exact whole
  | hangs => exact whole

end Drained

def StreamBehaviour.Fits (stream : StreamBehaviour) (limit : Int) : Prop :=
  stream.bytes = [] ∨ stream.bytes.length ≤ limit

instance (stream : StreamBehaviour) (limit : Int) : Decidable (stream.Fits limit) :=
  inferInstanceAs (Decidable (_ ∨ _))

namespace Reader

theorem contents_exact (reader : Reader) :
    reader.contents =
      match reader.stream.ending with
      | .fails fault => .error (.unreadable reader.name fault)
      | _ =>
        if reader.stream.Fits reader.limit then .ok reader.stream.bytes
        else .error (.overflow reader.name reader.limit) := by
  obtain ⟨holds, fault⟩ := Drained.ofReads_stream reader.limit reader.stream
  unfold contents
  simp only [fault]
  cases reader.stream.ending with
  | fails fault => rfl
  | ends | hangs =>
      by_cases fits : reader.stream.Fits reader.limit
      · have kept : ¬ (Drained.ofReads reader.limit reader.stream.reads).sink.overflowed = true := by
          rw [holds.overflowed]
          rintro ⟨some, more⟩
          rcases fits with none | all
          · exact some none
          · omega
        have all : reader.stream.bytes.take reader.limit.toNat = reader.stream.bytes := by
          apply List.take_of_length_le
          rcases fits with none | all
          · simp [none]
          · omega
        simp [fits, kept, holds.data, all]
      · -- a stream without bytes never overflows, whatever its limit
        have lost : (Drained.ofReads reader.limit reader.stream.reads).sink.overflowed = true := by
          rw [holds.overflowed]
          exact ⟨fun none => fits (.inl none), Int.not_le.mp fun all => fits (.inr all)⟩
        simp [fits, lost]

end Reader

end Jp2Render
