import EmbeddingIndex.Proofs.Snapshot.RoundTrip
/-!
A snapshot's bytes tell where they end. What follows them does not matter, nothing can be read where
they are cut short, and no two snapshots share them.
-/

namespace EmbeddingIndex

theorem LittleEndian.decode_of_short (width : Nat) (bytes : Bytes) (short : bytes.length < width) :
    decode width bytes = none := by
  induction width generalizing bytes with
  | zero => exact absurd short (Nat.not_lt_zero _)
  | succ width ih =>
    cases bytes with
    | nil => rfl
    | cons byte rest => rw [decode, ih rest (Nat.lt_of_succ_lt_succ short)]

theorem LittleEndian.decode_of_cut {width n : Nat} {kept lost : Bytes}
    (split : kept ++ lost = encode width n) (cut : lost ≠ []) : decode width kept = none := by
  apply decode_of_short
  have total : kept.length + lost.length = width := by
    rw [← List.length_append, split, length_encode]
  have missing := List.length_pos_iff.mpr cut
  omega

theorem Varint.decode_of_cut (widest : Nat) {n : Nat} {kept lost : Bytes}
    (split : kept ++ lost = encode n) (cut : lost ≠ []) : decode widest kept = none := by
  cases kept with
  | nil => rfl
  | cons lead rest =>
    rw [encode, List.cons_append] at split
    by_cases byte : n < 251
    · rw [if_pos byte] at split
      have nothing : rest ++ lost = [] := (List.cons.inj split).2
      exact absurd (List.append_eq_nil_iff.mp nothing).2 cut
    · rw [if_neg byte] at split
      by_cases short : n < 0x10000
      · rw [if_pos short] at split
        obtain ⟨rfl, behind⟩ := List.cons.inj split
        simp [decode, LittleEndian.decode_of_cut behind cut]
      · rw [if_neg short] at split
        by_cases word : n < 0x100000000
        · rw [if_pos word] at split
          obtain ⟨rfl, behind⟩ := List.cons.inj split
          simp [decode, LittleEndian.decode_of_cut behind cut]
        · rw [if_neg word] at split
          obtain ⟨rfl, behind⟩ := List.cons.inj split
          simp [decode, LittleEndian.decode_of_cut behind cut]

namespace Payload

def Intake.andThen {α β : Type} (read : Intake α) (next : α → Intake β) : Intake β := fun bytes =>
  match read bytes with
  | .error halt => .error halt
  | .ok (value, rest) => next value rest

/-- The reader finds nothing as soon as the end of these bytes is cut off. -/
def NeedsAll {α : Type} (read : Intake α) (code : Bytes) : Prop :=
  ∀ kept lost, kept ++ lost = code → lost ≠ [] → read kept = .error undecodable

section

variable {α β : Type} {read : Intake α} {code : Bytes}

theorem andThen_of_ok {next : α → Intake β} {bytes rest : Bytes} {value : α}
    (found : read bytes = .ok (value, rest)) : read.andThen next bytes = next value rest := by
  rw [Intake.andThen, found]

theorem andThen_of_error {next : α → Intake β} {bytes : Bytes} {halt : Halt}
    (stopped : read bytes = .error halt) : read.andThen next bytes = .error halt := by
  rw [Intake.andThen, stopped]

theorem NeedsAll.map (needs : NeedsAll read code) (f : α → β) :
    NeedsAll (read.andThen fun value rest => .ok (f value, rest)) code :=
  fun kept lost split cut => andThen_of_error (needs kept lost split cut)

theorem NeedsAll.andThen {next : α → Intake β} {value : α} {behind : Bytes}
    (needs : NeedsAll read code) (whole : ∀ rest, read (code ++ rest) = .ok (value, rest))
    (later : NeedsAll (next value) behind) : NeedsAll (read.andThen next) (code ++ behind) := by
  intro kept lost split cut
  rcases List.append_eq_append_iff.mp split with ⟨missing, code_eq, lost_eq⟩ | ⟨more, kept_eq, behind_eq⟩
  · cases missing with
    | nil =>
      have found := whole []
      rw [List.append_nil, code_eq, List.append_nil] at found
      rw [andThen_of_ok found]
      exact later [] lost lost_eq cut
    | cons byte rest =>
      exact andThen_of_error (needs kept (byte :: rest) code_eq.symm (List.cons_ne_nil _ _))
  · rw [kept_eq, andThen_of_ok (whole more)]
    exact later more lost behind_eq.symm cut

theorem needsAll_expect {reader : Reader α}
    (finds_none : ∀ kept lost, kept ++ lost = code → lost ≠ [] → reader kept = none) :
    NeedsAll (expect reader) code := by
  intro kept lost split cut
  rw [expect, finds_none kept lost split cut]

theorem readMany_succ (read : Intake α) (count : Nat) :
    readMany read (count + 1) = read.andThen fun value =>
      (readMany read count).andThen fun values rest => .ok (value :: values, rest) := by
  funext bytes
  rw [readMany, Intake.andThen]
  rcases read bytes with halt | ⟨value, rest⟩
  · rfl
  · simp only [Intake.andThen]
    rcases readMany read count rest with halt | ⟨values, rest⟩ <;> rfl

theorem needsAll_readMany (read : Intake α) (write : α → Bytes) (values : List α)
    (each : ∀ value ∈ values, NeedsAll read (write value))
    (whole : ∀ value ∈ values, ∀ rest, read (write value ++ rest) = .ok (value, rest)) :
    NeedsAll (readMany read values.length) (values.flatMap write) := by
  induction values with
  | nil =>
    intro kept lost split cut
    exact absurd (List.append_eq_nil_iff.mp split).2 cut
  | cons value values ih =>
    have later := ih (fun other member => each other (List.mem_cons_of_mem value member))
      fun other member => whole other (List.mem_cons_of_mem value member)
    rw [List.length_cons, readMany_succ, List.flatMap_cons]
    exact (each value List.mem_cons_self).andThen (whole value List.mem_cons_self)
      (later.map (value :: ·))

end

theorem needsAll_varint (widest n : Nat) :
    NeedsAll (expect (Varint.decode widest)) (Varint.encode n) :=
  needsAll_expect fun _ _ => Varint.decode_of_cut widest

theorem needsAll_readComponent (x : Binary32) : NeedsAll readComponent (encodeComponent x) := by
  have bits : NeedsAll (expect (LittleEndian.decode 4)) (encodeComponent x) :=
    needsAll_expect fun _ _ => LittleEndian.decode_of_cut
  intro kept lost split cut
  rw [readComponent, bits kept lost split cut]

theorem needsAll_readWidth (width : Option Nat) : NeedsAll readWidth (encodeWidth width) := by
  intro kept lost split cut
  cases kept with
  | nil => rfl
  | cons lead rest =>
    cases width with
    | none =>
      have nothing : rest ++ lost = [] := (List.cons.inj split).2
      exact absurd (List.append_eq_nil_iff.mp nothing).2 cut
    | some width =>
      obtain ⟨rfl, behind⟩ := List.cons.inj split
      rw [readWidth, needsAll_varint 8 width rest lost behind cut]

def readBody (count : Nat) : Intake String := fun bytes =>
  if !Memory.holds count 1 then .error .crash
  else if bytes.length < count then .error undecodable
  else
    match text? (bytes.take count) with
    | none => .error undecodable
    | some text => .ok (text, bytes.drop count)

theorem readText_eq : readText = (expect (Varint.decode 8)).andThen readBody := by
  funext bytes
  rw [readText, Intake.andThen]
  rcases expect (Varint.decode 8) bytes with halt | ⟨count, rest⟩ <;> rfl

theorem needsAll_readBody (code : Bytes) (held : Memory.holds code.length 1 = true) :
    NeedsAll (readBody code.length) code := by
  intro kept lost split cut
  have short : kept.length < code.length := by
    have missing := List.length_pos_iff.mpr cut
    rw [← split, List.length_append]
    omega
  rw [readBody, held, if_neg (by decide), if_pos short]

theorem needsAll_readText (text : String) (held : Memory.holds (utf8 text).length 1 = true) :
    NeedsAll readText (encodeText text) := by
  rw [readText_eq, encodeText]
  exact (needsAll_varint 8 _).andThen (expect_varint _ (Memory.lt_of_holds held))
    (needsAll_readBody _ held)

theorem readVector_eq :
    readVector = (expect (Varint.decode 8)).andThen fun count => readMany readComponent count := by
  funext bytes
  rw [readVector, Intake.andThen]
  rcases expect (Varint.decode 8) bytes with halt | ⟨count, rest⟩ <;> rfl

theorem needsAll_readVector (vector : Embedding) (small : vector.length < 2 ^ 64) :
    NeedsAll readVector (encodeVector vector) := by
  rw [readVector_eq, encodeVector]
  exact (needsAll_varint 8 _).andThen (expect_varint _ small)
    (needsAll_readMany readComponent encodeComponent vector (fun x _ => needsAll_readComponent x)
      fun x _ => readComponent_append x)

theorem readEntry_eq :
    readEntry = readText.andThen fun id => readVector.andThen fun vector rest =>
      .ok (⟨id, vector⟩, rest) := by
  funext bytes
  rw [readEntry, Intake.andThen]
  rcases readText bytes with halt | ⟨id, rest⟩
  · rfl
  · simp only [Intake.andThen]
    rcases readVector rest with halt | ⟨vector, rest⟩ <;> rfl

theorem needsAll_readEntry (entry : Entry) (held : Memory.holds (utf8 entry.id).length 1 = true)
    (small : entry.vector.length < 2 ^ 64) : NeedsAll readEntry (encodeEntry entry) := by
  rw [readEntry_eq, encodeEntry]
  exact (needsAll_readText entry.id held).andThen (readText_append entry.id held)
    ((needsAll_readVector entry.vector small).map (Entry.mk entry.id))

theorem read_eq :
    read = (expect (Varint.decode 4)).andThen fun version => readWidth.andThen fun width =>
      (expect (Varint.decode 8)).andThen fun count =>
        (readMany readEntry count).andThen fun entries rest =>
          .ok (⟨UInt32.ofNat version, width, entries⟩, rest) := by
  funext bytes
  rw [read, Intake.andThen]
  rcases expect (Varint.decode 4) bytes with halt | ⟨version, rest⟩
  · rfl
  · simp only [Intake.andThen]
    rcases readWidth rest with halt | ⟨width, rest⟩
    · rfl
    · simp only
      rcases expect (Varint.decode 8) rest with halt | ⟨count, rest⟩
      · rfl
      · simp only
        rcases readMany readEntry count rest with halt | ⟨entries, rest⟩ <;> rfl

theorem needsAll_read (s : Snapshot) (addressable : s.Addressable) : NeedsAll read (encode s) := by
  have entries := needsAll_readMany readEntry encodeEntry s.entries
    (fun entry member => needsAll_readEntry entry (addressable.entries.ids entry member)
      (addressable.entries.vectors entry member))
    fun entry member => readEntry_append entry (addressable.entries.ids entry member)
      (addressable.entries.vectors entry member)
  have version (rest : Bytes) := expect_of_some (Varint.decode_four_append _ s.version.toNat_lt rest)
  rw [read_eq, encode]
  simp only [List.append_assoc]
  exact (needsAll_varint 4 _).andThen version
    ((needsAll_readWidth s.width).andThen (readWidth_append s.width addressable.width)
      ((needsAll_varint 8 _).andThen (expect_varint _ addressable.entries.count)
        (entries.map (Snapshot.mk (UInt32.ofNat s.version.toNat) s.width))))

theorem encode_injective {s other : Snapshot} (addressable : s.Addressable)
    (other_addressable : other.Addressable) (same : encode other = encode s) : other = s := by
  have found := read_append s addressable []
  rw [← same, read_append other other_addressable] at found
  exact (Prod.mk.inj (Except.ok.inj found)).1

end Payload

theorem Frame.wrap_injective {digest : Digest} {payload other : Bytes}
    (same : wrap digest other = wrap digest payload) : other = payload := by
  have unwrapped := congrArg (unwrap digest) same
  rw [unwrap_wrap, unwrap_wrap] at unwrapped
  exact Except.ok.inj unwrapped

namespace Snapshot

theorem decode_wrap (digest : Digest) (payload : Bytes) :
    decode digest (Frame.wrap digest payload) =
      match Payload.read payload with
      | .error halt => .error halt
      | .ok (s, _) =>
        if s.version = currentVersion then .ok s
        else .error (.fault (.snapshot (.unsupported s.version.toNat))) := by
  cases found : Payload.read payload <;> simp only [decode, Frame.unwrap_wrap, found]

theorem decode_wrap_append (digest : Digest) (s : Snapshot) (addressable : s.Addressable)
    (behind : Bytes) :
    decode digest (Frame.wrap digest (Payload.encode s ++ behind)) =
      if s.version = currentVersion then .ok s
      else .error (.fault (.snapshot (.unsupported s.version.toNat))) := by
  rw [decode_wrap, Payload.read_append s addressable behind]

theorem decode_wrap_of_cut (digest : Digest) (s : Snapshot) (addressable : s.Addressable)
    {kept : Bytes} (front : kept <+: Payload.encode s) (cut : kept ≠ Payload.encode s) :
    decode digest (Frame.wrap digest kept) = .error Payload.undecodable := by
  obtain ⟨lost, split⟩ := front
  have missing : lost ≠ [] := by
    rintro rfl
    exact cut (by rw [← split, List.append_nil])
  rw [decode_wrap, Payload.needsAll_read s addressable kept lost split missing]

/-- Under any digest, a snapshot is read back from its bytes if it has the current version, and
refused by its version otherwise. Bytes behind its payload change nothing, a payload that is cut
short cannot be decoded, and other snapshots have other bytes. -/
theorem encode_delimited (digest : Digest) (s : Snapshot) (addressable : s.Addressable) :
    (s.version = 1 → decode digest (encode digest s) = .ok s) ∧
      (s.version ≠ 1 → ∃ cause : SnapshotFault,
        decode digest (encode digest s) = .error (.fault (.snapshot cause)) ∧
          cause = .unsupported s.version.toNat ∧
          cause.message = "unsupported snapshot version " ++ toString s.version.toNat) ∧
      (∀ behind, decode digest (Frame.wrap digest (Payload.encode s ++ behind)) =
        decode digest (encode digest s)) ∧
      (∀ kept, kept <+: Payload.encode s → kept ≠ Payload.encode s → ∃ cause : SnapshotFault,
        decode digest (Frame.wrap digest kept) = .error (.fault (.snapshot cause)) ∧
          cause = .undecodable ∧ cause.message = "decode failed") ∧
      ∀ other : Snapshot, other.Addressable → encode digest other = encode digest s → other = s := by
  have outcome := decode_wrap_append digest s addressable []
  rw [List.append_nil] at outcome
  refine ⟨?_, ?_, ?_, ?_, ?_⟩
  · intro current
    exact outcome.trans (if_pos current)
  · intro foreign
    exact ⟨_, outcome.trans (if_neg foreign), rfl, rfl⟩
  · intro behind
    exact (decode_wrap_append digest s addressable behind).trans outcome.symm
  · intro kept front cut
    exact ⟨_, decode_wrap_of_cut digest s addressable front cut, rfl, rfl⟩
  · intro other other_addressable same
    exact Payload.encode_injective addressable other_addressable (Frame.wrap_injective same)

def peculiar : Snapshot := ⟨2, none, [⟨"é", [⟨0x7fc00001⟩]⟩, ⟨"é", []⟩]⟩

theorem encode_delimited_peculiar :
    peculiar.Addressable ∧
      (peculiar.version = 1 → decode .blake3 (encode .blake3 peculiar) = .ok peculiar) ∧
      (peculiar.version ≠ 1 → ∃ cause : SnapshotFault,
        decode .blake3 (encode .blake3 peculiar) = .error (.fault (.snapshot cause)) ∧
          cause = .unsupported peculiar.version.toNat ∧
          cause.message = "unsupported snapshot version " ++ toString peculiar.version.toNat) ∧
      (∀ behind, decode .blake3 (Frame.wrap .blake3 (Payload.encode peculiar ++ behind)) =
        decode .blake3 (encode .blake3 peculiar)) ∧
      (∀ kept, kept <+: Payload.encode peculiar → kept ≠ Payload.encode peculiar →
        ∃ cause : SnapshotFault,
          decode .blake3 (Frame.wrap .blake3 kept) = .error (.fault (.snapshot cause)) ∧
            cause = .undecodable ∧ cause.message = "decode failed") ∧
      ∀ other : Snapshot, other.Addressable → encode .blake3 other = encode .blake3 peculiar →
        other = peculiar := by
  have addressable : peculiar.Addressable :=
    ⟨by simp [peculiar], ⟨by decide, by decide, by decide⟩⟩
  exact ⟨addressable, encode_delimited .blake3 peculiar addressable⟩

end Snapshot

end EmbeddingIndex
