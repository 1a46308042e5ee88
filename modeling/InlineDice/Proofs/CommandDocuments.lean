import InlineDice.CommandLine.Run
import InlineDice.Proofs.PlayRuns

namespace InlineDice.CommandLine

variable {σ : Type}

/-- What is read of a file, or of the standard input under the name `-` or none. -/
inductive Host.Reads (host : Host σ) : Option Text → Bytes → Prop
  | input : host.Reads none host.input
  | dash : host.Reads (some ['-']) host.input
  | file {path : Text} {bytes : Bytes} (other : path ≠ ['-']) (plain : Char.ofNat 0 ∉ path)
      (opened : host.openFile path = .ok bytes) : host.Reads (some path) bytes

variable {host : Host σ} {file : Option Text} {bytes : Bytes}

theorem Host.Reads.unique {more : Bytes} (reads : host.Reads file bytes)
    (again : host.Reads file more) : bytes = more := by
  cases reads with
  | input =>
    cases again
    rfl
  | dash =>
    cases again with
    | dash => rfl
    | file other => exact absurd rfl other
  | file other _ opened =>
    cases again with
    | dash => exact absurd rfl other
    | file _ _ same => exact Except.ok.inj (opened.symm.trans same)

theorem Host.Reads.of_path {path : Text} (reads : host.Reads (some path) bytes)
    (notDash : path ≠ ['-']) : Char.ofNat 0 ∉ path ∧ host.openFile path = .ok bytes := by
  cases reads with
  | dash => exact absurd rfl notDash
  | file _ plain opened => exact ⟨plain, opened⟩

/-- A file under a name of its own holds UTF-8. -/
theorem Host.decode_of_path (host : Host σ) {path : Text} (other : path ≠ ['-']) (bytes : Bytes) :
    host.decode (some path) bytes = (Utf8.decode bytes).mapError .notUtf8 := by
  unfold Host.decode
  split
  · next none => cases none
  · next dash => exact absurd (Option.some.inj dash) other
  · rfl

/-- A document is read and decoded, or its name cannot be a path, or there is no such file. -/
theorem document_cases (host : Host σ) (file : Option Text) :
    (∃ bytes, host.Reads file bytes ∧ document host file =
      match host.decode file bytes with
      | .ok text => .ok (Text.unifyLineEnds text)
      | .error fault => .error (.ofEnding (.escaped fault))) ∨
    (∃ path, file = some path ∧ path ≠ ['-'] ∧ Char.ofNat 0 ∈ path ∧
      document host file = .error (.ofEnding (.escaped .nullInPath))) ∨
    ∃ path failure, file = some path ∧ path ≠ ['-'] ∧ Char.ofNat 0 ∉ path ∧
      host.openFile path = .error failure ∧
      document host file = .error { Outcome.ofEnding (.returned 1) with
        stderr := "error: ".toList ++ failure.message path ++ ['\n'] } := by
  unfold document
  split
  · exact .inl ⟨host.input, .input, rfl⟩
  · exact .inl ⟨host.input, .dash, rfl⟩
  · next path notDash =>
    by_cases null : Char.ofNat 0 ∈ path
    · refine .inr (.inl ⟨path, rfl, notDash, null, ?_⟩)
      rw [if_pos (List.contains_iff_mem.mpr null)]
      rfl
    · rw [if_neg (by simpa using null)]
      cases opened : host.openFile path with
      | ok bytes => exact .inl ⟨bytes, .file notDash null opened, rfl⟩
      | error failure => exact .inr (.inr ⟨path, failure, rfl, notDash, null, opened, rfl⟩)

theorem document_of_reads (reads : host.Reads file bytes) :
    document host file =
      match host.decode file bytes with
      | .ok text => .ok (Text.unifyLineEnds text)
      | .error fault => .error (.ofEnding (.escaped fault)) := by
  rcases document_cases host file with ⟨more, again, came⟩ | ⟨path, rfl, notDash, null, -⟩ |
    ⟨path, failure, rfl, notDash, -, unopened, -⟩
  · rw [came, reads.unique again]
  · exact absurd null (reads.of_path notDash).1
  · have opened := (reads.of_path notDash).2
    rw [unopened] at opened
    cases opened

namespace Directory

variable {files : Directory} {failure : OpenFailure}

end Directory

end InlineDice.CommandLine
