import Mathlib.Algebra.GroupWithZero.Nat
import Librtcdc.Shared.Stdio

set_option autoImplicit false

namespace Librtcdc.Sync

open Systems

-- sy_rtcdc.c

def candidateLineSize : Nat := 128

-- A read after the end of the string, or a write after the end of a line's buffer.
inductive MemoryFault where
  | read | write
  deriving DecidableEq, Repr

-- The loop over `str_iter`; the buffer holds `line`, and then zeros.
def copyLine : Bytes → Bytes → Except MemoryFault (Bytes × Bytes)
  | _, [] => .error .read
  | line, b :: rest =>
      if b ≠ newline then
        if line.length < candidateLineSize then copyLine (line ++ [b]) rest else .error .write
      else
        .ok (line, rest)

-- `string` is what is left of the string, its terminator included; `none` is NULL.
def getlineCandidates (string : Bytes) : Except MemoryFault (Option (Bytes × Bytes)) :=
  match string with
  | [] => .error .read
  | b :: _ =>
      if b = 0 then .ok none
      else
        match copyLine [] string with
        | .error fault => .error fault
        | .ok line => .ok (some line)

-- The text in a line's buffer; a full buffer has no terminator.
def lineText (line : Bytes) : Except MemoryFault Bytes :=
  if line.length < candidateLineSize ∨ 0 ∈ line then .ok (cText line) else .error .read

variable {string rest line done text : Bytes}

theorem copyLine_shorter (copied : copyLine done string = .ok (line, rest)) :
    rest.length < string.length := by
  induction string generalizing done with
  | nil => cases copied
  | cons b more ih =>
      rw [copyLine] at copied
      split_ifs at copied
      · exact (ih copied).trans (Nat.lt_succ_self _)
      · obtain ⟨_, rfl⟩ := Prod.mk.inj (Except.ok.inj copied)
        exact Nat.lt_succ_self _

theorem getlineCandidates_shorter (got : getlineCandidates string = .ok (some (line, rest))) :
    rest.length < string.length := by
  cases string with
  | nil => cases got
  | cons b more =>
      rw [getlineCandidates] at got
      split_ifs at got
      · cases Except.ok.inj got
      · split at got
        · cases got
        · rename_i copied
          obtain rfl := Option.some.inj (Except.ok.inj got)
          exact copyLine_shorter copied

-- The texts that `rtcdc_parse_candidate_sdp` is called with.
def parseCandidates (candidates : Bytes) : Except MemoryFault (List Bytes) :=
  match _ : getlineCandidates candidates with
  | .error fault => .error fault
  | .ok none => .ok []
  | .ok (some (line, rest)) => do
      let text ← lineText line
      let later ← parseCandidates rest
      return text :: later
termination_by candidates.length
decreasing_by exact getlineCandidates_shorter ‹_›

def linesOf : Bytes → List Bytes
  | [] => []
  | b :: rest =>
      if b = newline then [] :: linesOf rest
      else
        match linesOf rest with
        | [] => [[b]]
        | line :: more => (b :: line) :: more

theorem linesOf_line (clean : newline ∉ line) :
    linesOf (line ++ newline :: rest) = line :: linesOf rest := by
  induction line with
  | nil => simp [linesOf]
  | cons b more ih =>
      rw [List.mem_cons, not_or] at clean
      rw [List.cons_append, linesOf, if_neg (Ne.symm clean.1), ih clean.2]

theorem copyLine_line (clean : newline ∉ line) :
    copyLine done (line ++ newline :: rest) =
      if line = [] ∨ done.length + line.length ≤ candidateLineSize then .ok (done ++ line, rest)
      else .error .write := by
  induction line generalizing done with
  | nil => simp [copyLine]
  | cons b more ih =>
      rw [List.mem_cons, not_or] at clean
      rw [List.cons_append, copyLine, if_pos (Ne.symm clean.1), ih clean.2]
      simp only [List.length_append, List.length_cons, List.length_nil, List.append_assoc,
        List.singleton_append, List.cons_ne_nil, false_or]
      by_cases full : done.length < candidateLineSize
      · rw [if_pos full]
        by_cases ends : more = []
        · simp only [ends, true_or, if_true, List.length_nil, Nat.zero_add]
          rw [if_pos (by omega)]
        · simp only [ends, false_or]
          congr 1
          rw [Nat.add_assoc, Nat.add_comm 1]
      · rw [if_neg full, if_neg (by omega)]

theorem copyLine_unended (clean : newline ∉ string) :
    ∃ fault, copyLine done string = .error fault := by
  induction string generalizing done with
  | nil => exact ⟨.read, rfl⟩
  | cons b more ih =>
      rw [List.mem_cons, not_or] at clean
      rw [copyLine, if_pos (Ne.symm clean.1)]
      split_ifs
      · exact ih clean.2
      · exact ⟨.write, rfl⟩

theorem getlineCandidates_line (clean : newline ∉ line) (nulFree : 0 ∉ line) :
    getlineCandidates (line ++ newline :: rest) =
      if line.length ≤ candidateLineSize then .ok (some (line, rest)) else .error .write := by
  have copied : copyLine [] (line ++ newline :: rest) = _ := copyLine_line clean
  have starts : ∃ b more, line ++ newline :: rest = b :: more ∧ b ≠ 0 := by
    cases line with
    | nil => exact ⟨newline, rest, rfl, by decide⟩
    | cons b more => exact ⟨b, _, rfl, Ne.symm (List.ne_of_not_mem_cons nulFree)⟩
  obtain ⟨b, more, shape, present⟩ := starts
  rw [shape] at copied ⊢
  rw [getlineCandidates, if_neg present, copied]
  by_cases fits : line.length ≤ candidateLineSize
  · simp [fits]
  · have some_there : line ≠ [] := by
      rintro rfl
      exact fits (Nat.zero_le _)
    simp [fits, some_there]

def Ended (text : Bytes) : Prop :=
  text = [] ∨ text.getLast? = some newline

instance : DecidablePred Ended := fun _ => inferInstanceAs (Decidable (_ ∨ _))

-- Each line is passed on once and in order, and no access is out of bounds.
def ParsesLines (text : Bytes) : Prop :=
  parseCandidates (text ++ [0]) = .ok (linesOf text)

theorem parseCandidates_nil : parseCandidates (0 :: rest) = .ok [] := by
  unfold parseCandidates
  simp [getlineCandidates]

theorem parseCandidates_short (clean : newline ∉ line) (nulFree : 0 ∉ line)
    (short : line.length < candidateLineSize) {lines : List Bytes} :
    parseCandidates (line ++ newline :: rest) = .ok lines ↔
      ∃ later, parseCandidates rest = .ok later ∧ lines = line :: later := by
  have text : lineText line = .ok line := by simp [lineText, short, cText_of_nulFree nulFree]
  rw [parseCandidates, getlineCandidates_line clean nulFree, if_pos (Nat.le_of_lt short)]
  simp only [text]
  cases parseCandidates rest <;> simp [bind, Except.bind, pure, Except.pure, eq_comm]

theorem parseCandidates_long (clean : newline ∉ line) (nulFree : 0 ∉ line)
    (long : ¬ line.length < candidateLineSize) {lines : List Bytes} :
    parseCandidates (line ++ newline :: rest) ≠ .ok lines := by
  have full : lineText line = .error .read := by simp [lineText, long, nulFree]
  rw [parseCandidates, getlineCandidates_line clean nulFree]
  by_cases fits : line.length ≤ candidateLineSize
  · rw [if_pos fits]
    simp [full, bind, Except.bind]
  · rw [if_neg fits]
    simp

theorem parseCandidates_unended (clean : newline ∉ string) {lines : List Bytes}
    (present : string.head? ≠ some 0) : parseCandidates string ≠ .ok lines := by
  obtain ⟨fault, copied⟩ : ∃ fault, copyLine [] string = .error fault := copyLine_unended clean
  have stops : ∃ fault, getlineCandidates string = .error fault := by
    cases string with
    | nil => exact ⟨.read, rfl⟩
    | cons b more =>
        have text : b ≠ 0 := by simpa using present
        exact ⟨fault, by rw [getlineCandidates, if_neg text, copied]⟩
  obtain ⟨fault, stops⟩ := stops
  rw [parseCandidates, stops]
  simp

theorem parsesLines_line (clean : newline ∉ line) (nulFree : 0 ∉ line) :
    ParsesLines (line ++ newline :: rest) ↔ line.length < candidateLineSize ∧ ParsesLines rest := by
  rw [ParsesLines, ParsesLines, linesOf_line clean, List.append_assoc, List.cons_append]
  by_cases short : line.length < candidateLineSize
  · rw [parseCandidates_short clean nulFree short]
    simp [short]
  · simp [short, parseCandidates_long clean nulFree short]

theorem ended_line : Ended (line ++ newline :: rest) ↔ Ended rest := by
  cases rest with
  | nil => simp [Ended]
  | cons b more => simp [Ended, List.getLast?_cons_cons]

/-- The lines are parsed exactly when all of them end with a newline and fit the buffer. -/
theorem parsesLines_iff (candidates : CString) :
    ParsesLines candidates.val ↔
      Ended candidates.val ∧ ∀ line ∈ linesOf candidates.val, line.length < candidateLineSize := by
  obtain ⟨text, nulFree⟩ := candidates
  induction length : text.length using Nat.strong_induction_on generalizing text with
  | _ bound ih =>
      subst length
      by_cases lines : newline ∈ text
      · obtain ⟨line, rest, rfl, clean⟩ := List.eq_append_cons_of_mem lines
        have lineFree : 0 ∉ line := fun nul => nulFree (List.mem_append_left _ nul)
        have restFree : 0 ∉ rest := fun nul =>
          nulFree (List.mem_append_right _ (List.mem_cons_of_mem _ nul))
        have shorter : rest.length < (line ++ newline :: rest).length := by
          simp only [List.length_append, List.length_cons]
          omega
        have later := ih _ shorter rest restFree rfl
        dsimp only at later ⊢
        rw [parsesLines_line clean lineFree, later, ended_line, linesOf_line clean,
          List.forall_mem_cons]
        exact and_left_comm
      · by_cases present : text = []
        · subst present
          simp [ParsesLines, parseCandidates_nil, linesOf, Ended]
        · have unended : newline ∉ text ++ [0] := by
            rw [List.mem_append, not_or]
            exact ⟨lines, by decide⟩
          have starts : (text ++ [0]).head? ≠ some 0 := by
            cases text with
            | nil => exact absurd rfl present
            | cons b more => simpa using (List.ne_of_not_mem_cons nulFree).symm
          have last : ¬ Ended text := by
            rintro (nothing | ends)
            · exact present nothing
            · exact lines (List.mem_of_getLast? ends)
          simp [ParsesLines, parseCandidates_unended unended starts, last]

theorem unended_candidate_fails : ¬ ParsesLines (CString.literal "candidate").val := by
  have clean : newline ∉ (CString.literal "candidate").val ++ [0] := by decide +kernel
  exact parseCandidates_unended clean (by decide +kernel)

def sdpSize : Nat := 1400

-- `dest` is the whole buffer.
def strcat (dest src : Bytes) : Except MemoryFault Bytes :=
  if 0 ∈ dest then
    let text := cText dest ++ src
    if text.length < dest.length then .ok (text ++ 0 :: dest.drop (text.length + 1))
    else .error .write
  else
    .error .read

def onCandidate (localCandidates : Bytes) (candidate : CString) : Except MemoryFault Bytes := do
  let candidateSet ← strcat localCandidates candidate.val
  strcat candidateSet [newline]

-- The buffer is zeroed before the first callback.
def gatherCandidates (candidates : List CString) : Except MemoryFault Bytes :=
  candidates.foldlM onCandidate (List.replicate sdpSize 0)

structure Gathered (buffer text : Bytes) : Prop where
  size : buffer.length = sdpSize
  ended : 0 ∈ buffer
  text : cText buffer = text

theorem strcat_gathered {buffer src : Bytes} (gathered : Gathered buffer text)
    (textFree : 0 ∉ text) (srcFree : 0 ∉ src) (fits : (text ++ src).length < sdpSize) :
    ∃ buffer', strcat buffer src = .ok buffer' ∧ Gathered buffer' (text ++ src) := by
  have room : (cText buffer ++ src).length < buffer.length := by
    rwa [gathered.text, gathered.size]
  refine ⟨text ++ src ++ 0 :: buffer.drop ((text ++ src).length + 1), ?_, ?_, ?_, ?_⟩
  · rw [strcat, if_pos gathered.ended, if_pos room, gathered.text]
  · rw [← gathered.size] at fits ⊢
    rw [List.length_append, List.length_cons, List.length_drop]
    omega
  · simp
  · have nulFree : 0 ∉ text ++ src := List.not_mem_append textFree srcFree
    rw [cText_append nulFree]
    simp [cText]

theorem onCandidate_gathered {buffer : Bytes} {candidate : CString}
    (gathered : Gathered buffer text) (textFree : 0 ∉ text)
    (fits : (text ++ (candidate.val ++ [newline])).length < sdpSize) :
    ∃ buffer', onCandidate buffer candidate = .ok buffer' ∧
      Gathered buffer' (text ++ (candidate.val ++ [newline])) := by
  have length : (text ++ candidate.val).length < sdpSize := by
    simp only [List.length_append] at fits ⊢
    omega
  obtain ⟨candidateSet, first, there⟩ := strcat_gathered gathered textFree candidate.2 length
  rw [← List.append_assoc] at fits ⊢
  have nulFree : 0 ∉ text ++ candidate.val := List.not_mem_append textFree candidate.2
  obtain ⟨buffer', last, ended⟩ := strcat_gathered there nulFree (by decide) fits
  refine ⟨buffer', ?_, ended⟩
  rw [onCandidate, first]
  exact last

def candidateLines (candidates : List CString) : Bytes :=
  candidates.flatMap fun candidate => candidate.val ++ [newline]

theorem gather_gathered {buffer : Bytes} {candidates : List CString}
    (gathered : Gathered buffer text) (textFree : 0 ∉ text)
    (fits : (text ++ candidateLines candidates).length < sdpSize) :
    ∃ buffer', candidates.foldlM onCandidate buffer = .ok buffer' ∧
      Gathered buffer' (text ++ candidateLines candidates) := by
  induction candidates generalizing buffer text with
  | nil => exact ⟨buffer, rfl, by simpa [candidateLines] using gathered⟩
  | cons candidate rest ih =>
      have lines : candidateLines (candidate :: rest) =
          candidate.val ++ [newline] ++ candidateLines rest := List.flatMap_cons
      rw [lines, ← List.append_assoc] at fits ⊢
      have here : (text ++ (candidate.val ++ [newline])).length < sdpSize := by
        rw [List.length_append] at fits
        omega
      obtain ⟨next, called, there⟩ := onCandidate_gathered gathered textFree here
      have lineFree : 0 ∉ candidate.val ++ [newline] :=
        List.not_mem_append candidate.2 (by decide)
      obtain ⟨last, later, ended⟩ := ih there (List.not_mem_append textFree lineFree) fits
      refine ⟨last, ?_, ended⟩
      rw [List.foldlM_cons, called]
      exact later

theorem candidateLines_length (candidates : List CString) :
    (candidateLines candidates).length =
      (candidates.map fun candidate => candidate.val.length + 1).sum := by
  simp [candidateLines, List.length_flatMap]

theorem parse_candidateLines {candidates : List CString}
    (clean : ∀ candidate ∈ candidates, newline ∉ candidate.val)
    (short : ∀ candidate ∈ candidates, candidate.val.length < candidateLineSize) :
    parseCandidates (candidateLines candidates ++ 0 :: rest) =
      .ok (candidates.map Subtype.val) := by
  induction candidates with
  | nil => exact parseCandidates_nil
  | cons candidate more ih =>
      rw [List.forall_mem_cons] at clean short
      have line : candidateLines (candidate :: more) ++ 0 :: rest =
          candidate.val ++ newline :: (candidateLines more ++ 0 :: rest) := by
        simp [candidateLines]
      rw [line, parseCandidates_short clean.1 candidate.2 short.1]
      exact ⟨_, ih clean.2 short.2, rfl⟩

/-- What is gathered on one side is passed on by the other, candidate by candidate, and nothing is
read after the end of the string. -/
theorem candidates_round_trip (candidates : List CString)
    (clean : ∀ candidate ∈ candidates, newline ∉ candidate.val)
    (short : ∀ candidate ∈ candidates, candidate.val.length < candidateLineSize)
    (fits : (candidates.map fun candidate => candidate.val.length + 1).sum < sdpSize) :
    ∃ localCandidates, gatherCandidates candidates = .ok localCandidates ∧
      ∀ rest, parseCandidates (cText localCandidates ++ 0 :: rest) =
        .ok (candidates.map Subtype.val) := by
  have empty : Gathered (List.replicate sdpSize 0) [] := by
    refine ⟨List.length_replicate, ?_, cText_append_zeros [] sdpSize⟩
    exact List.mem_replicate.mpr ⟨by decide, rfl⟩
  rw [← candidateLines_length] at fits
  obtain ⟨buffer, gathered, there⟩ := gather_gathered empty List.not_mem_nil fits
  refine ⟨buffer, gathered, fun rest => ?_⟩
  rw [there.text]
  exact parse_candidateLines clean short

theorem two_candidates_round_trip :
    ∃ localCandidates,
      gatherCandidates [CString.literal "candidate", CString.empty] = .ok localCandidates ∧
        ∀ rest, parseCandidates (cText localCandidates ++ 0 :: rest) =
          .ok [(CString.literal "candidate").val, []] :=
  candidates_round_trip [CString.literal "candidate", CString.empty]
    (by decide +kernel) (by decide +kernel) (by decide +kernel)

end Librtcdc.Sync
