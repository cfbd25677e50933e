import TreePath.Proofs.Grammar.Bytewise
import TreePath.Proofs.Grammar.Cuts

/-
  What a scanner does over any number of calls.  It never
  misreads, it moves on with each step and never past the end
  of its text, and it is silent once it has ended or failed.

  Key definitions include:
    * `Scanner.Call`
    * `Scanner.calls`
    * `ByteScanner.calls`
    * `Scanner.Call.Sound`
    * `Scanner.Orderly`

  Main statements:
    * `Scanner.calls_bytewise`
    * `Scanner.next_moves`
    * `Scanner.calls_orderly`
    * `Scanner.bytewise_calls_orderly`
-/

------------------------------------------------------------
-- Calls
------------------------------------------------------------

namespace TreePath

namespace Scanner

/-
  One call of a scanner: what it yields and logs, and the
  offsets of the scanner before and after it.
-/
structure Call where
  before : Nat
  outcome : Option (Except SyntaxError LocatedStep)
  warnings : List Warning
  after : Nat
deriving DecidableEq, Repr

/- The step that a call yields, if it yields one. -/
def Call.step?
    (call : Call) : Option LocatedStep :=
  match call.outcome with
  | some (.ok located) => some located
  | _ => none

/- The offset of the step or the fault that a call yields. -/
def Call.offset?
    (call : Call) : Option Nat :=
  match call.outcome with
  | none => none
  | some (.ok located) => located.offset
  | some (.error e) => some e.offset

/- The call that a turn from an offset makes up. -/
def Turn.call
    (turn : Turn)
    (before : Nat) : Call :=
  ⟨before, turn.value.1, turn.log, turn.value.2.offset⟩

/- So many calls of a scanner, one after the other. -/
def calls : Nat → Scanner → List Call
| 0, _ => []
| n + 1, s =>
    Turn.call s.next s.offset :: calls n s.next.value.2

end Scanner

/- So many calls by bytes, up to the first that misreads. -/
def ByteScanner.calls :
    Nat → ByteScanner →
      Except Utf8.Misread (List Scanner.Call)
| 0, _ => .ok []
| n + 1, s =>
    s.next.bind (fun turn =>
      (calls n turn.value.2).map (fun later =>
        ⟨s.position, turn.value.1, turn.log,
          turn.value.2.position⟩ :: later))

------------------------------------------------------------
-- Sound Calls
------------------------------------------------------------

namespace Scanner

variable {s : Scanner}
variable {front taken rest : List Char}

/- Two places of a text, in order and not past its end. -/
structure Span
    (source : String)
    (first last : Nat) : Prop where
  opens : Utf8.IsBoundary source first
  closes : Utf8.IsBoundary source last
  ordered : first ≤ last
  inside : last ≤ source.utf8ByteSize

/-
  A call is sound if it goes from one place of the text to a
  later one, with what it yields in between.  A step takes
  some text, and a step that is a name has one.
-/
structure Call.Sound
    (source : String)
    (call : Call) : Prop where
  span : Span source call.before call.after
  progress :
    ∀ located, call.step? = some located →
      call.before < call.after
  located :
    ∀ located, call.step? = some located →
      ∃ offset,
        located.offset = some offset ∧ offset < call.after
  offset :
    ∀ offset, call.offset? = some offset →
      Utf8.IsBoundary source offset ∧ call.before ≤ offset
  named :
    ∀ located text, call.step? = some located →
      located.step = .named text → text ≠ ""

/- The place where a scanner stands is one of its text. -/
theorem StandsBehind.isBoundary
    (hStands : s.StandsBehind front) :
    Utf8.IsBoundary s.source s.offset :=
  Utf8.isBoundary_iff.mpr
    ⟨front, s.rest, hStands.split, hStands.offset⟩

/- Text in front of it lies between two places. -/
theorem StandsBehind.span
    (hStands : s.StandsBehind front)
    (hRest : s.rest = taken ++ rest) :
    Span s.source s.offset (s.offset + Utf8.size taken) := by
  have hLast := (hStands.moveTo hRest).isBoundary
  exact
    ⟨hStands.isBoundary, hLast, Nat.le_add_right _ _,
      hLast.le⟩

/-
  What is promised of a call: it is sound, it leaves the
  scanner in place in the same text, and one without a step
  is the last that counts.
-/
structure Moves
    (s : Scanner)
    (turn : Turn) : Prop where
  sound : (turn.call s.offset).Sound s.source
  source : turn.value.2.source = s.source
  place : turn.value.2.InPlace
  ended :
    (turn.call s.offset).step? = none →
      turn.value.2.phase = .done

/- Yielding what was taken of the text as a step. -/
theorem moves_of_yieldStep
    {step : Step}
    {warnings : List Warning}
    (hStands : s.StandsBehind front)
    (hRest : s.rest = taken ++ rest)
    (hTaken : taken ≠ [])
    (hNamed : ∀ text, step = .named text → text ≠ "") :
    s.Moves
      ((s.moveTo (s.offset + Utf8.size taken)
        rest).yieldStep step s.offset warnings) := by
  have hProgress : s.offset < s.offset + Utf8.size taken := by
    have hLength := Utf8.length_le_size taken
    have hPositive := List.length_pos_of_ne_nil hTaken
    omega
  refine ⟨⟨hStands.span hRest, ?_, ?_, ?_, ?_⟩, rfl, ?_, ?_⟩
  · intro located hStep
    exact hProgress
  · rintro located ⟨⟩
    exact ⟨s.offset, rfl, hProgress⟩
  · rintro offset ⟨⟩
    exact ⟨hStands.isBoundary, Nat.le_refl _⟩
  · rintro located text ⟨⟩ hText
    exact hNamed text hText
  · exact
      ⟨⟨_, hStands.moveTo hRest⟩,
        fun hPhase => nomatch hPhase⟩
  · rintro ⟨⟩

/- Ending behind what was taken, with a fault or without. -/
theorem moves_of_finish
    {turn : Turn}
    (hStands : s.StandsBehind front)
    (hRest : s.rest = taken ++ rest)
    (hAfter :
      turn.value.2 =
        (s.moveTo (s.offset + Utf8.size taken) rest).finish)
    (hStep : (turn.call s.offset).step? = none)
    (hOffset :
      ∀ offset, (turn.call s.offset).offset? = some offset →
        offset = s.offset) :
    s.Moves turn := by
  have hMoved := hStands.moveTo hRest
  have hSpan : Span s.source s.offset turn.value.2.offset := by
    rw [hAfter]
    exact hStands.span hRest
  refine ⟨⟨hSpan, ?_, ?_, ?_, ?_⟩, ?_, ?_, ?_⟩
  · intro located hSome
    cases hStep.symm.trans hSome
  · intro located hSome
    cases hStep.symm.trans hSome
  · intro offset hSome
    rw [hOffset offset hSome]
    exact ⟨hStands.isBoundary, Nat.le_refl _⟩
  · intro located text hSome
    cases hStep.symm.trans hSome
  · rw [hAfter]
    rfl
  · rw [hAfter]
    exact
      ⟨⟨_, hMoved.split, hMoved.offset⟩,
        fun hPhase => nomatch hPhase⟩
  · intro _
    rw [hAfter]
    rfl

/- In particular with a fault where the scanner stood. -/
theorem moves_of_yieldFault
    (hStands : s.StandsBehind front)
    (hRest : s.rest = taken ++ rest)
    (fault : Fault) :
    s.Moves
      ((s.moveTo (s.offset + Utf8.size taken)
        rest).yieldFault s.offset fault) := by
  refine moves_of_finish hStands hRest rfl rfl ?_
  rintro offset ⟨⟩
  rfl

/- A turn behind some text is one from in front of it. -/
theorem Moves.behind
    {turn : Turn}
    (hStands : s.StandsBehind front)
    (hRest : s.rest = taken ++ rest)
    (hMoves :
      (s.moveTo (s.offset + Utf8.size taken) rest).Moves
        turn) :
    s.Moves turn := by
  have hSpan := hStands.span hRest
  rcases hMoves with ⟨hSound, hSource, hPlace, hEnded⟩
  refine
    ⟨⟨⟨hSpan.opens, hSound.span.closes, ?_,
          hSound.span.inside⟩,
        ?_, hSound.located, ?_, hSound.named⟩,
      hSource, hPlace, hEnded⟩
  · exact hSpan.ordered.trans hSound.span.ordered
  · intro located hStep
    exact hSpan.ordered.trans_lt (hSound.progress located hStep)
  · intro offset hOffset
    rcases hSound.offset offset hOffset with ⟨hPlaced, hLe⟩
    exact ⟨hPlaced, hSpan.ordered.trans hLe⟩

end Scanner

------------------------------------------------------------
-- One Call
------------------------------------------------------------

/- A group takes at least its opening bracket. -/
theorem Grammar.readGroup_raw_ne_nil
    (body : List Char) :
    (readGroup body).raw ≠ [] := by
  intro hNil
  have hWhole := readGroup_whole body
  have hLength := Scanner.length_readGroup_le body
  rw [hNil, List.nil_append] at hWhole
  rw [← hWhole, List.length_cons] at hLength
  omega

namespace Scanner

open Grammar

variable {s : Scanner} {source : String} {front : List Char}

/- What a running scanner does in one call. -/
theorem advance_moves
    (hPhase : s.phase = .running)
    (hStands : s.StandsBehind front) :
    s.Moves s.advance := by
  induction s, hPhase using running_induction
    generalizing front with
  | nil s hPhase hRest =>
      rw [advance_nil hRest]
      have hTaken : s.rest = [] ++ [] := hRest
      refine moves_of_finish hStands hTaken rfl rfl ?_
      rintro offset ⟨⟩
  | dot s hPhase rest hRest ih =>
      have hTaken : s.rest = ['.'] ++ rest := hRest
      rw [advance_dot hRest]
      exact (ih (hStands.moveTo hTaken)).behind hStands hTaken
  | name s hPhase name rest hName hRest ih =>
      rw [advance_name hName hRest]
      apply moves_of_yieldStep hStands hRest hName.nonempty
      rintro text ⟨⟩
      rw [Ne, String.ofList_eq_empty_iff]
      exact hName.nonempty
  | group s hPhase body hRest ih =>
      have hWhole := hRest.trans (readGroup_whole body)
      have hTaken := readGroup_raw_ne_nil body
      cases hContent : (readGroup body).content with
      | ok key =>
          rw [advance_key hRest hContent]
          apply moves_of_yieldStep hStands hWhole hTaken
          rintro text ⟨⟩
      | error fault =>
          cases hMode : s.mode with
          | strict =>
              rw [advance_refused_strict hMode hRest hContent]
              exact moves_of_yieldFault hStands hWhole fault
          | loose =>
              rw [advance_refused_loose hMode hRest hContent]
              apply moves_of_yieldStep hStands hWhole hTaken
              rintro text ⟨⟩
              rw [Ne, String.ofList_eq_empty_iff]
              exact hTaken
  | closing s hPhase rest hMode hRest =>
      rw [advance_closing hMode hRest]
      have hTaken : s.rest = [] ++ ']' :: rest := hRest
      exact moves_of_yieldFault hStands hTaken _

/- Until it is called a scanner is at the front of its text. -/
theorem InPlace.offset_start
    (hPlace : s.InPlace)
    (hPhase : s.phase = .start) :
    s.offset = 0 := by
  rcases hPlace.behind with ⟨front, hStands⟩
  have hSplit := hStands.split
  rw [hPlace.start hPhase, List.self_eq_append_left] at hSplit
  rw [hStands.offset, hSplit]
  rfl

/- What any scanner in place does in one call. -/
theorem next_moves
    (hPlace : s.InPlace) :
    s.Moves s.next := by
  rcases hPlace.behind with ⟨front, hStands⟩
  have hTaken : s.rest = [] ++ s.rest := rfl
  have hAdvance : s.Moves s.advance :=
    Moves.behind hStands hTaken
      (advance_moves (s := s.moveTo s.offset s.rest) rfl
        ⟨hStands.split, hStands.offset⟩)
  unfold next
  cases hPhase : s.phase with
  | done =>
      refine moves_of_finish hStands hTaken ?_ rfl ?_
      · cases s
        cases hPhase
        rfl
      · rintro offset ⟨⟩
  | running => exact hAdvance
  | start =>
      by_cases hEmpty : s.rest = []
      · have hOffset := hPlace.offset_start hPhase
        simp only [if_pos hEmpty]
        refine moves_of_finish hStands hTaken rfl rfl ?_
        rintro offset ⟨⟩
        exact hOffset.symm
      · simp only [if_neg hEmpty]
        exact hAdvance

------------------------------------------------------------
-- Many Calls
------------------------------------------------------------

/- No call by bytes misreads, and all yield the same. -/
theorem calls_bytewise
    (hPlace : s.InPlace)
    (n : Nat) :
    s.bytewise.calls n = .ok (s.calls n) := by
  induction n generalizing s with
  | zero => rfl
  | succ n ih =>
      have hLater := ih (next_moves hPlace).place
      simp only [ByteScanner.calls, next_bytewise hPlace,
        Except.bind]
      rw [Turn.bytewise, Logged.value_map, hLater]
      rfl

/- Once it is done a scanner yields nothing. -/
theorem outcome_of_done
    {n : Nat}
    {call : Call}
    (hDone : s.phase = .done)
    (hMember : call ∈ s.calls n) :
    call.outcome = none := by
  have hNext : s.next = ⟨(none, s), []⟩ := by
    simp [next, hDone]
  induction n with
  | zero => cases hMember
  | succ n ih =>
      rw [calls, hNext] at hMember
      rcases List.mem_cons.mp hMember with rfl | hLater
      · rfl
      · exact ih hLater

/-
  Calls from an offset on are orderly if each is sound, what
  they yield is at ever later offsets, there are no more
  steps than bytes, and nothing comes behind a call without a
  step.
-/
structure Orderly
    (source : String)
    (first : Nat)
    (calls : List Call) : Prop where
  sound : ∀ call ∈ calls, call.Sound source
  behind : ∀ call ∈ calls, first ≤ call.before
  increasing : (calls.filterMap Call.offset?).Pairwise (· < ·)
  count :
    first + (calls.filterMap Call.step?).length ≤
      source.utf8ByteSize
  fused :
    calls.Pairwise (fun earlier later =>
      earlier.step? = none → later.outcome = none)

/- The offset of a call with a step is that of its step. -/
theorem Call.offset?_of_step?
    {call : Call}
    {located : LocatedStep}
    (hStep : call.step? = some located) :
    call.offset? = located.offset := by
  unfold Call.step? at hStep
  unfold Call.offset?
  split at hStep
  · rename_i hOutcome
    rw [hOutcome, Option.some.inj hStep]
  · cases hStep

/- All that comes behind a sound call has a later offset. -/
theorem Orderly.lt_of_offset?
    {call : Call}
    {later : List Call}
    {offset other : Nat}
    (hSound : call.Sound source)
    (hLater : Orderly source call.after later)
    (hFused :
      call.step? = none → ∀ c ∈ later, c.outcome = none)
    (hOffset : call.offset? = some offset)
    (hOther : other ∈ later.filterMap Call.offset?) :
    offset < other := by
  rcases List.mem_filterMap.mp hOther with
    ⟨c, hMember, hBehind⟩
  cases hStep : call.step? with
  | none =>
      have hSilent := hFused hStep c hMember
      simp [Call.offset?, hSilent] at hBehind
  | some located =>
      rcases hSound.located located hStep with
        ⟨own, hOwn, hInside⟩
      rw [Call.offset?_of_step? hStep, hOwn] at hOffset
      have hSame : own = offset := Option.some.inj hOffset
      have hFirst := hLater.behind c hMember
      have hLast :=
        ((hLater.sound c hMember).offset other hBehind).2
      omega

/- A sound call may stand in front of orderly ones. -/
theorem Orderly.cons
    {call : Call}
    {later : List Call}
    (hSound : call.Sound source)
    (hLater : Orderly source call.after later)
    (hFused :
      call.step? = none → ∀ c ∈ later, c.outcome = none) :
    Orderly source call.before (call :: later) := by
  have hOrdered := hSound.span.ordered
  refine ⟨?_, ?_, ?_, ?_, ?_⟩
  · exact List.forall_mem_cons.mpr ⟨hSound, hLater.sound⟩
  · refine List.forall_mem_cons.mpr ⟨Nat.le_refl _, ?_⟩
    intro c hMember
    exact hOrdered.trans (hLater.behind c hMember)
  · cases hOffset : call.offset? with
    | none =>
        rw [List.filterMap_cons_none hOffset]
        exact hLater.increasing
    | some offset =>
        rw [List.filterMap_cons_some hOffset]
        refine List.Pairwise.cons ?_ hLater.increasing
        intro other hOther
        exact hLater.lt_of_offset? hSound hFused hOffset hOther
  · have hCount := hLater.count
    cases hStep : call.step? with
    | none =>
        rw [List.filterMap_cons_none hStep]
        omega
    | some located =>
        have hProgress := hSound.progress located hStep
        rw [List.filterMap_cons_some hStep, List.length_cons]
        omega
  · refine List.Pairwise.cons ?_ hLater.fused
    intro c hMember hNone
    exact hFused hNone c hMember

/- Any number of calls of a scanner in place are orderly. -/
theorem calls_orderly
    (hPlace : s.InPlace)
    (n : Nat) :
    Orderly s.source s.offset (s.calls n) := by
  induction n generalizing s with
  | zero =>
      rcases hPlace.behind with ⟨front, hStands⟩
      have hInside := hStands.isBoundary.le
      exact
        ⟨by simp [calls], by simp [calls], .nil, hInside, .nil⟩
  | succ n ih =>
      have hMoves := next_moves hPlace
      have hLater := ih hMoves.place
      rw [hMoves.source] at hLater
      apply Orderly.cons hMoves.sound hLater
      intro hNone c hMember
      exact outcome_of_done (hMoves.ended hNone) hMember

/-
  A scanner that reads bytes never asks for a byte behind the
  end of its text or for a slice that is not between two
  characters.  It yields call by call what the scanner of
  characters does, and the calls are orderly.
-/
theorem bytewise_calls_orderly
    (mode : BracketMode)
    (source : String)
    (n : Nat) :
    (ByteScanner.ofText mode source).calls n =
        .ok ((ofText mode source).calls n) ∧
      Orderly source 0 ((ofText mode source).calls n) := by
  have hPlace := ofText_inPlace mode source
  exact ⟨calls_bytewise hPlace n, calls_orderly hPlace n⟩

-- A bracket that closes nothing ends the text for good.
example :
    (((ofText .strict "a]b").calls 4).map Call.outcome) =
      [some (.ok ⟨.named "a", some 0⟩),
        some (.error ⟨1, "a]b", .unexpectedBracket⟩),
        none, none] := by
  cbv

end Scanner

end TreePath
