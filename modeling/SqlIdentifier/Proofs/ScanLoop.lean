import SqlIdentifier.Identifier.Scan
import SqlIdentifier.Proofs.Dispatch

namespace SqlIdentifier.Identifier

/-- The loop from a position on, with the identifiers that it records. Behind one it goes on at its
end, and where there is none, behind the next code point. -/
inductive ScanRun (text : List Char) : Nat → List Match → Prop
  | done {position : Nat} : Text.byteSize text ≤ position → ScanRun text position []
  | token {position : Nat} {found : Match} {tokens : List Match} :
      position < Text.byteSize text → matchAt? text position = some found →
      ScanRun text found.span.stop tokens → ScanRun text position (found :: tokens)
  | skip {position : Nat} {before after : List Char} {c : Char} {tokens : List Match} :
      text = before ++ c :: after → position = Text.byteSize before →
      matchAt? text position = none → ScanRun text (position + c.utf8Size) tokens →
      ScanRun text position tokens

/-- Code points of an identifier already found are passed over. -/
theorem scanFrom_pass {text taken rest : List Char} {resume position : Nat}
    (within : position + Text.byteSize taken ≤ resume) :
    scanFrom text resume position (taken ++ rest) =
      scanFrom text resume (position + Text.byteSize taken) rest := by
  induction taken generalizing position with
  | nil => rfl
  | cons c later ih =>
    have positive := c.utf8Size_pos
    rw [Text.byteSize_cons] at within
    rw [List.cons_append, scanFrom, if_pos (by omega), ih (by omega), Text.byteSize_cons,
      Nat.add_assoc]

theorem scanFrom_token {text taken rest : List Char} {resume position : Nat} {found : Match}
    (reached : resume ≤ position) (recognised : matchAt? text position = some found)
    (nonempty : taken ≠ []) (stop : found.span.stop = position + Text.byteSize taken) :
    scanFrom text resume position (taken ++ rest) =
      found :: scanFrom text found.span.stop found.span.stop rest := by
  obtain ⟨c, later, rfl⟩ := List.exists_cons_of_ne_nil nonempty
  rw [Text.byteSize_cons, ← Nat.add_assoc] at stop
  rw [List.cons_append, scanFrom, if_neg (by omega), recognised]
  simp only [scanFrom_pass (Nat.le_of_eq stop.symm)]
  rw [stop]

theorem scanFrom_skip {text rest : List Char} {resume position : Nat} {c : Char}
    (reached : resume ≤ position) (refused : matchAt? text position = none) :
    scanFrom text resume position (c :: rest) =
      scanFrom text resume (position + c.utf8Size) rest := by
  rw [scanFrom, if_neg (by omega), refused]

/-- A run from a position gives what the scan gives from there, wherever behind the last identifier
the scan resumes. -/
theorem ScanRun.scanFrom_eq {text : List Char} {position : Nat} {tokens : List Match}
    (run : ScanRun text position tokens) {before rest : List Char} {resume : Nat}
    (parts : text = before ++ rest) (offset : position = Text.byteSize before)
    (reached : resume ≤ position) : scanFrom text resume position rest = tokens := by
  induction run generalizing before rest resume with
  | done atEnd =>
    have size := congrArg Text.byteSize parts
    rw [Text.byteSize_append] at size
    have nothing : rest = [] := Text.eq_nil_of_byteSize (by omega)
    rw [nothing, scanFrom]
  | @token position _ _ _ recognised _ ih =>
    -- the match is a shape at this offset, so that the scan passes over exactly its text
    obtain ⟨shape, ⟨before', after, parts', offset', _⟩, rfl, _⟩ :=
      matchAt?_eq_some_iff.mp recognised
    obtain ⟨rfl, rfl⟩ := Text.append_inj_of_byteSize (offset.symm.trans offset')
      (parts.symm.trans parts')
    have stop := congrArg Span.stop (shape.span_matchAt position)
    have regroup : text = before ++ shape.text ++ after := by rw [parts, List.append_assoc]
    have atStop : (shape.matchAt position).span.stop = Text.byteSize (before ++ shape.text) := by
      rw [stop, Text.byteSize_append, offset]
    rw [scanFrom_token reached recognised shape.text_ne_nil stop,
      ih regroup atStop (Nat.le_refl _)]
  | @skip position before' after c _ parts' offset' refused _ ih =>
    obtain ⟨rfl, rfl⟩ := Text.append_inj_of_byteSize (offset.symm.trans offset')
      (parts.symm.trans parts')
    have regroup : text = before ++ [c] ++ after := by rw [parts, List.append_cons]
    have behind : position + c.utf8Size = Text.byteSize (before ++ [c]) := by
      rw [Text.byteSize_append, offset]
      rfl
    rw [scanFrom_skip reached refused]
    exact ih regroup behind (by omega)

theorem ScanRun.eq_scan {text : List Char} {tokens : List Match} (run : ScanRun text 0 tokens) :
    scan text = tokens :=
  run.scanFrom_eq (List.nil_append text).symm rfl (Nat.le_refl 0)

end SqlIdentifier.Identifier
