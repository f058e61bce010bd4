import ScanSetup.Proofs.Text.Blank
import ScanSetup.Proofs.Text.Utf8
import ScanSetup.Time.StampFile

set_option autoImplicit false

namespace ScanSetup.Time

open Text

/-- The line is the first one of the text, and the text shows where it ends: a line feed is enough,
but behind a carriage return something has to follow. -/
inductive EndedLine : List Char → List Char → Prop
  | feed {line rest : List Char} (inside : ∀ c ∈ line, isLineEnd c = false) :
      EndedLine (line ++ '\n' :: rest) line
  | carriage {line rest : List Char} {c : Char} (inside : ∀ c ∈ line, isLineEnd c = false) :
      EndedLine (line ++ '\r' :: c :: rest) line

/-- The first line of a file. It is all that has to be read and decoded, a number of whole chunks,
if it ends in them; otherwise the file has to be a text to its end. -/
inductive FirstLine (file : Opened) : List Char → Prop
  | ended {count : Nat} {text line : List Char} {pending : List UInt8}
      (decoded : Decodes (file.bytes.take (8192 * count)) text pending)
      (ends : EndedLine text line) : FirstLine file line
  | whole {text : List Char} (readable : file.failure? = none)
      (decoded : file.bytes = encoded text) :
      FirstLine file (text.takeWhile fun c => !isLineEnd c)

/-- The stamp of the file at a path, as far as this is a file that can be opened: its first line
without the white space at its ends, unless nothing is left. -/
inductive StampText (env : Environment) (path : String) : String → Prop
  | read {entry : Entry} {bytes : List UInt8} {failure? : Option SystemFault} {line : List Char}
      (found : env.lookup (tidyPath path) = .ok entry) (opened : entry.openFailure? = none)
      (file : entry.content = .file bytes failure?) (first : FirstLine ⟨bytes, failure?⟩ line)
      (nonempty : trim line ≠ []) : StampText env path (String.ofList (trim line))

variable {text line rest : List Char} {pending consumed : List UInt8}
variable {failure? : Option SystemFault}

/-! ### Lines -/

theorem isLineEnd_iff {c : Char} : isLineEnd c = true ↔ c = '\n' ∨ c = '\r' := by
  simp [isLineEnd]

theorem endedLine?_cons {c : Char} (other : isLineEnd c = false) (text : List Char) :
    endedLine? (c :: text) = (endedLine? text).map (c :: ·) := by
  have feed : c ≠ '\n' := by
    rintro rfl
    cases other
  have carriage : c ≠ '\r' := by
    rintro rfl
    cases other
  rw [endedLine?]
  · exact feed
  · exact fun same _ => carriage same
  · exact carriage

theorem endedLine?_append (inside : ∀ c ∈ line, isLineEnd c = false)
    (stop : endedLine? rest = some []) : endedLine? (line ++ rest) = some line := by
  induction line with
  | nil => exact stop
  | cons c line ih =>
    obtain ⟨here, later⟩ := List.forall_mem_cons.mp inside
    rw [List.cons_append, endedLine?_cons here, ih later]
    rfl

theorem endedLine?_eq_some_iff : endedLine? text = some line ↔ EndedLine text line := by
  constructor
  · intro ended
    induction text generalizing line with
    | nil => cases ended
    | cons c text ih =>
      have none : ∀ c ∈ ([] : List Char), isLineEnd c = false := by simp
      cases other : isLineEnd c with
      | true =>
        rcases isLineEnd_iff.mp other with rfl | rfl
        · cases ended
          exact .feed none
        · cases text with
          | nil => cases ended
          | cons d text =>
            cases ended
            exact .carriage none
      | false =>
        rw [endedLine?_cons other] at ended
        obtain ⟨tail, found, rfl⟩ := Option.map_eq_some_iff.mp ended
        cases ih found with
        | feed inside => exact .feed (List.forall_mem_cons.mpr ⟨other, inside⟩)
        | carriage inside => exact .carriage (List.forall_mem_cons.mpr ⟨other, inside⟩)
  · rintro (inside | inside)
    · exact endedLine?_append inside rfl
    · exact endedLine?_append inside rfl

/-- A line that has ended stays as it is when the text goes on. -/
theorem EndedLine.append (ended : EndedLine text line) (more : List Char) :
    EndedLine (text ++ more) line := by
  cases ended with
  | feed inside =>
    rw [List.append_assoc]
    exact .feed inside
  | carriage inside =>
    rw [List.append_assoc]
    exact .carriage inside

theorem EndedLine.takeWhile_eq (ended : EndedLine text line) :
    text.takeWhile (fun c => !isLineEnd c) = line := by
  have row {rest : List Char} (inside : ∀ c ∈ line, isLineEnd c = false)
      (stop : ∀ c ∈ rest.head?, isLineEnd c = true) :
      (line ++ rest).takeWhile (fun c => !isLineEnd c) = line :=
    (span_append (fun c member => by rw [inside c member, Bool.not_false])
      (fun c first => by rw [stop c first, Bool.not_true])).1
  cases ended with
  | feed inside => exact row inside (by simp [isLineEnd])
  | carriage inside => exact row inside (by simp [isLineEnd])

/-! ### Chunks -/

theorem take_chunksFrom (fuel : Nat) (bytes : List UInt8) (enough : bytes.length ≤ fuel)
    (count : Nat) :
    ((chunksFrom fuel bytes).take count).flatten = bytes.take (chunkSize * count) := by
  induction fuel generalizing bytes count with
  | zero =>
    have none : bytes = [] := List.eq_nil_of_length_eq_zero (Nat.le_zero.mp enough)
    simp [chunksFrom, none]
  | succ fuel ih =>
    rw [chunksFrom]
    split
    · rename_i none
      simp [List.isEmpty_iff.mp none]
    · cases count with
      | zero => simp
      | succ count =>
        have shorter : (bytes.drop chunkSize).length ≤ fuel := by
          rw [List.length_drop]
          have size : 0 < chunkSize := by decide
          omega
        rw [List.take_succ_cons, List.flatten_cons, ih _ shorter, Nat.mul_succ, Nat.add_comm,
          List.take_add]

theorem flatten_chunks (bytes : List UInt8) : (chunks bytes).flatten = bytes := by
  have all := take_chunksFrom bytes.length bytes le_rfl (max bytes.length (chunks bytes).length)
  have long : bytes.length ≤ chunkSize * max bytes.length (chunks bytes).length :=
    Nat.le_trans (Nat.le_max_left _ _) (Nat.le_mul_of_pos_left _ (by decide))
  rw [List.take_of_length_le long] at all
  rwa [← chunks, List.take_of_length_le (Nat.le_max_right _ _)] at all

/-! ### Reading -/

theorem EndedLine.unique {other : List Char} (first : EndedLine text line)
    (second : EndedLine text other) : line = other :=
  first.takeWhile_eq.symm.trans second.takeWhile_eq

/-- At the end of a file nothing may be pending. -/
theorem readLine_nil_eq_ok_iff (decoded : Decodes consumed text pending) :
    readLine failure? text pending [] = .ok line ↔
      failure? = none ∧ ∃ whole, consumed = encoded whole ∧
        line = whole.takeWhile fun c => !isLineEnd c := by
  have alone {whole : List Char} (same : consumed = encoded whole) :
      whole = text ∧ pending = [] := by
    subst same
    obtain ⟨rfl, rfl⟩ := decoded.unique (.of_encoded whole)
    exact ⟨rfl, rfl⟩
  cases failure? with
  | some fault => simp [readLine]
  | none =>
    simp only [readLine, true_and]
    cases error : (decodeUtf8 pending).error? with
    | some error =>
      simp only [reduceCtorEq, false_iff]
      rintro ⟨whole, same, -⟩
      rw [(alone same).2] at error
      cases error
    | none =>
      obtain ⟨back, rfl⟩ := decodeUtf8_error?_eq_none.mp error
      have same : consumed = encoded (text ++ back) := by rw [decoded.1, encoded_append]
      rw [(alone same).1] at same
      simp only [Except.ok.injEq]
      constructor
      · rintro rfl
        exact ⟨text, same, rfl⟩
      · rintro ⟨whole, written, rfl⟩
        rw [(alone written).1]

section

variable {chunk bytes left : List UInt8} {whole back : List Char}
variable (decoded : Decodes consumed text pending)

include decoded

/-- What a chunk completes goes behind what has been decoded. -/
theorem decodes_chunk {open_end : List UInt8}
    (part : decodePart (pending ++ chunk) = .ok (back, open_end)) :
    Decodes (consumed ++ chunk) (text ++ back) open_end := by
  rw [decoded.1, List.append_assoc, Decodes.append_iff]
  exact ⟨back, rfl, decodePart_eq_ok_iff.mp part⟩

/-- What is decoded from more than a chunk begins with what the chunk completes. -/
theorem decodes_later (all : Decodes (consumed ++ (chunk ++ bytes)) whole left) :
    ∃ back open_end, decodePart (pending ++ chunk) = .ok (back, open_end) ∧
      text ++ back <+: whole := by
  rw [← List.append_assoc] at all
  obtain ⟨front, open_end, part, short⟩ := all.of_append
  rw [decoded.1, List.append_assoc, Decodes.append_iff] at part
  obtain ⟨back, rfl, part⟩ := part
  exact ⟨back, open_end, decodePart_eq_ok_iff.mpr part, short⟩

theorem not_endedLine (unended : ∀ line, ¬EndedLine text line)
    (again : Decodes consumed whole left) : ¬EndedLine whole line := by
  rw [← (decoded.unique again).1]
  exact unended line

end

/-- Reading goes on from what has been decoded. It ends with the first line of what a number of
further chunks add to it, or with that of all of them. -/
theorem readLine_eq_ok_iff {parts : List (List UInt8)} (decoded : Decodes consumed text pending)
    (unended : ∀ line, ¬EndedLine text line) :
    readLine failure? text pending parts = .ok line ↔
      (∃ count whole left, Decodes (consumed ++ (parts.take count).flatten) whole left ∧
        EndedLine whole line) ∨
        (failure? = none ∧ ∃ whole, consumed ++ parts.flatten = encoded whole ∧
          line = whole.takeWhile fun c => !isLineEnd c) := by
  induction parts generalizing consumed text pending with
  | nil =>
    rw [readLine_nil_eq_ok_iff decoded, List.flatten_nil, List.append_nil, or_iff_right]
    rintro ⟨count, whole, left, again, ended⟩
    rw [List.take_nil, List.flatten_nil, List.append_nil] at again
    exact not_endedLine decoded unended again ended
  | cons chunk parts ih =>
    -- No line has ended yet, so at least this chunk is read.
    have read : (∃ count whole left,
          Decodes (consumed ++ ((chunk :: parts).take count).flatten) whole left ∧
            EndedLine whole line) ↔
        ∃ count whole left, Decodes (consumed ++ (chunk ++ (parts.take count).flatten)) whole left ∧
          EndedLine whole line := by
      constructor
      · rintro ⟨_ | count, whole, left, part, ended⟩
        · rw [List.take_zero, List.flatten_nil, List.append_nil] at part
          exact absurd ended (not_endedLine decoded unended part)
        · exact ⟨count, whole, left, part, ended⟩
      · rintro ⟨count, whole, left, part, ended⟩
        exact ⟨count + 1, whole, left, part, ended⟩
    rw [read, List.flatten_cons, readLine]
    cases part : decodePart (pending ++ chunk) with
    | error error =>
      have none {bytes left : List UInt8} {whole : List Char} :
          ¬Decodes (consumed ++ (chunk ++ bytes)) whole left := by
        intro all
        obtain ⟨back, open_end, found, -⟩ := decodes_later decoded all
        rw [part] at found
        cases found
      simp only [reduceCtorEq, false_iff]
      rintro (⟨count, whole, left, all, -⟩ | ⟨-, whole, all, -⟩)
      · exact none all
      · exact none (all ▸ Decodes.of_encoded whole)
    | ok result =>
      obtain ⟨back, open_end⟩ := result
      have next := decodes_chunk decoded part
      dsimp only
      cases ended : endedLine? (text ++ back) with
      | some found =>
        have stays {bytes left : List UInt8} {whole : List Char}
            (all : Decodes (consumed ++ (chunk ++ bytes)) whole left) : EndedLine whole found := by
          obtain ⟨other, _, again, more, rfl⟩ := decodes_later decoded all
          rw [part] at again
          cases again
          exact (endedLine?_eq_some_iff.mp ended).append more
        simp only [Except.ok.injEq]
        constructor
        · rintro rfl
          exact .inl ⟨0, _, _, by simpa using next, endedLine?_eq_some_iff.mp ended⟩
        · rintro (⟨count, whole, left, all, other⟩ | ⟨-, whole, all, rfl⟩)
          · exact (stays all).unique other
          · exact (stays (all ▸ Decodes.of_encoded whole)).takeWhile_eq.symm
      | none =>
        have unended' (line : List Char) : ¬EndedLine (text ++ back) line := by
          rw [← endedLine?_eq_some_iff, ended]
          exact nofun
        simp only [ih next unended', List.append_assoc]

theorem firstLine_eq_ok_iff {file : Opened} : firstLine file = .ok line ↔ FirstLine file line := by
  have start : Decodes [] [] [] := ⟨rfl, .nil⟩
  have unended (line : List Char) : ¬EndedLine [] line := by
    intro ended
    cases endedLine?_eq_some_iff.mpr ended
  have taken (count : Nat) : ((chunks file.bytes).take count).flatten =
      file.bytes.take (8192 * count) := take_chunksFrom _ _ le_rfl count
  rw [firstLine, readLine_eq_ok_iff start unended]
  simp only [List.nil_append, flatten_chunks, taken]
  constructor
  · rintro (⟨count, whole, left, decoded, ends⟩ | ⟨readable, whole, decoded, rfl⟩)
    · exact .ended decoded ends
    · exact .whole readable decoded
  · rintro (⟨decoded, ends⟩ | ⟨readable, decoded⟩)
    · exact .inl ⟨_, _, _, decoded, ends⟩
    · exact .inr ⟨readable, _, decoded, rfl⟩

/-- A file that is a text to its end, and can be read to it, has the first line of this text. -/
theorem firstLine_encoded (text : List Char) :
    firstLine ⟨encoded text, none⟩ = .ok (text.takeWhile fun c => !isLineEnd c) :=
  firstLine_eq_ok_iff.mpr (.whole rfl rfl)

/-! ### Stamps -/

variable {env : Environment} {path stamp : String}

theorem openFile_eq_ok_iff {file : Opened} :
    env.openFile path = .ok file ↔
      ∃ entry, env.lookup path = .ok entry ∧ entry.openFailure? = none ∧
        entry.content = .file file.bytes file.failure? := by
  unfold Environment.openFile
  cases env.lookup path with
  | error fault => simp
  | ok entry =>
    obtain ⟨canonical, content, readable, openFailure?⟩ := entry
    obtain ⟨bytes, failure?⟩ := file
    cases openFailure? <;> cases content <;> simp

theorem readStampFile_eq_ok_iff :
    readStampFile env path = .ok stamp ↔ StampText env path stamp := by
  constructor
  · intro read
    unfold readStampFile at read
    dsimp only at read
    split at read
    · cases read
    · cases read
    · rename_i file opened
      obtain ⟨entry, found, allowed, content⟩ := openFile_eq_ok_iff.mp opened
      split at read
      · cases read
      · rename_i line first
        split at read
        · cases read
        · rename_i nonempty
          cases read
          exact .read found allowed content (firstLine_eq_ok_iff.mp first) nonempty
  · rintro ⟨found, opened, content, first, nonempty⟩
    have file : env.openFile (tidyPath path) = .ok ⟨_, _⟩ :=
      openFile_eq_ok_iff.mpr ⟨_, found, opened, content⟩
    obtain ⟨c, rest, trimmed⟩ := List.exists_cons_of_ne_nil nonempty
    simp only [readStampFile, file, firstLine_eq_ok_iff.mpr first, trimmed]

theorem stampText_unread_iff :
    (∀ stamp, ¬StampText env path stamp) ↔ ∃ fault, readStampFile env path = .error fault := by
  simp only [← readStampFile_eq_ok_iff]
  cases readStampFile env path <;> simp

/-- A name with a NUL character is the only one that no file can be asked for. -/
theorem readStampFile_eq_embeddedNul_iff :
    readStampFile env path = .error .embeddedNul ↔
      env.lookup (tidyPath path) = .error .embeddedNul := by
  constructor
  · intro failed
    unfold readStampFile at failed
    dsimp only at failed
    split at failed
    · rename_i missing
      unfold Environment.openFile at missing
      split at missing
      · cases missing
        assumption
      · split at missing <;> cases missing
    · cases failed
    · split at failed
      · cases failed
      · split at failed <;> cases failed
  · intro missing
    simp only [readStampFile, Environment.openFile, missing]

end ScanSetup.Time
