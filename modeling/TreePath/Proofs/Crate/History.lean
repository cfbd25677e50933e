import Mathlib.Data.List.Infix
import TreePath.Crate.Cache

/-
  Lookups over any run of writes, removals and lookups: which
  manifest one goes by, told from the history of the file and
  from the answers so far.  Any way to read manifests will do.

  Key definitions include:
    * `CacheStep.fileAfter`
    * `ManifestCache.answerAfter`
    * `ManifestCache.Settles`
    * `ManifestCache.FirstSettled`

  Main statements:
    * `ManifestCache.tracks_after`
    * `ManifestCache.lookups_follow_history`
-/

------------------------------------------------------------
-- Histories
------------------------------------------------------------

namespace TreePath

namespace CacheStep

/- The text of the file after one more step. -/
def fileNext
    (file : Option String) : CacheStep → Option String
| .write source => some source
| .remove => none
| .lookup _ _ => file

/- The text of the file after some steps, if there is a file. -/
def fileAfter
    (steps : List CacheStep) : Option String :=
  steps.foldl fileNext none

theorem fileAfter_concat
    (steps : List CacheStep)
    (s : CacheStep) :
    fileAfter (steps ++ [s]) =
      fileNext (fileAfter steps) s := by
  simp [fileAfter]

end CacheStep

namespace ManifestCache

open CacheStep

section Runs

variable [ManifestReader]

/- The cache after some steps. -/
def after
    (c : ManifestCache)
    (steps : List CacheStep) : ManifestCache :=
  steps.foldl (fun c s => (c.step s).2) c

/- The answer of a lookup that follows some steps. -/
def answerAfter
    (past : List CacheStep)
    (located : Bool)
    (name : String) :
    Except InvalidCrateName CratePath :=
  ((fresh.after past).lookup located name).1

/-
  The last of some steps is a lookup that found the file and
  gave a path.
-/
def Settles
    (steps : List CacheStep) : Prop :=
  ∃ past name path,
    steps = past ++ [.lookup true name] ∧
      fileAfter past ≠ none ∧
        answerAfter past true name = .ok path

/-
  Among some steps there is a lookup that found the file and
  gave a path; at the earliest of them the file held the text.
-/
def FirstSettled
    (steps : List CacheStep)
    (source : String) : Prop :=
  ∃ early,
    early <+: steps ∧ Settles early ∧
      fileAfter early = some source ∧
        ∀ earlier, earlier <+: early → Settles earlier →
          earlier = early

variable {past steps more : List CacheStep}
variable {located : Bool} {name source : String}

/- What settles some steps is their last, with the file there. -/
theorem exists_lookup_of_settles
    {s : CacheStep}
    (hSettles : Settles (past ++ [s])) :
    ∃ name source path,
      s = .lookup true name ∧ fileAfter past = some source ∧
        answerAfter past true name = .ok path := by
  rcases hSettles with
    ⟨before, name, path, hSteps, hFile, hAnswer⟩
  rcases List.append_inj' hSteps rfl with ⟨rfl, hLast⟩
  simp only [List.cons.injEq, and_true] at hLast
  rcases Option.ne_none_iff_exists'.mp hFile with
    ⟨source, hSource⟩
  exact ⟨name, source, path, hLast, hSource, hAnswer⟩

/- Only a lookup that found the file can settle anything. -/
theorem settles_lookup_iff :
    Settles (past ++ [.lookup located name]) ↔
      located = true ∧ fileAfter past ≠ none ∧
        ∃ path, answerAfter past located name = .ok path := by
  constructor
  · intro hSettles
    rcases exists_lookup_of_settles hSettles with
      ⟨asked, source, path, hSame, hSource, hAnswer⟩
    simp only [CacheStep.lookup.injEq] at hSame
    rcases hSame with ⟨rfl, rfl⟩
    exact ⟨rfl, by simp [hSource], path, hAnswer⟩
  · rintro ⟨rfl, hFile, path, hAnswer⟩
    exact ⟨past, name, path, rfl, hFile, hAnswer⟩

/- What came first stays first. -/
theorem FirstSettled.mono
    (hFirst : FirstSettled steps source)
    (hPrefix : steps <+: more) :
    FirstSettled more source := by
  rcases hFirst with ⟨early, hEarly, hRest⟩
  exact ⟨early, hEarly.trans hPrefix, hRest⟩

/- There is only one earliest lookup. -/
theorem FirstSettled.unique
    {other : String}
    (hFirst : FirstSettled steps source)
    (hOther : FirstSettled steps other) :
    source = other := by
  rcases hFirst with
    ⟨early, hEarly, hSettles, hFile, hLeast⟩
  rcases hOther with
    ⟨rival, hRival, hSettles', hFile', hLeast'⟩
  have hSame : early = rival := by
    rcases List.prefix_or_prefix_of_prefix hEarly hRival with
      hBefore | hBefore
    · exact hLeast' early hBefore hSettles
    · exact (hLeast rival hBefore hSettles').symm
  rw [hSame, hFile'] at hFile
  exact (Option.some.inj hFile).symm

/- A first lookup that settles is the earliest of all. -/
theorem firstSettled_of_first
    (hNone : ∀ p, p <+: past → ¬ Settles p)
    (hSettles : Settles (past ++ [.lookup located name]))
    (hFile : fileAfter past = some source) :
    FirstSettled (past ++ [.lookup located name]) source := by
  refine ⟨_, List.prefix_refl _, hSettles, ?_, ?_⟩
  · rw [fileAfter_concat, hFile]
    rfl
  · intro earlier hEarlier hSettled
    rcases List.prefix_concat_iff.mp hEarlier with
      hSame | hBefore
    · exact hSame
    · exact absurd hSettled (hNone earlier hBefore)

------------------------------------------------------------
-- One Lookup
------------------------------------------------------------

variable {c : ManifestCache}

/- The answer of a lookup is a path by its manifest. -/
theorem lookup_answer
    (c : ManifestCache)
    (located : Bool)
    (name : String) :
    (c.lookup located name).1 =
      (if located then c.manifest else .empty).cratePath
        name := by
  cases located with
  | false => rfl
  | true =>
      simp only [lookup, if_true]
      cases c.manifest.cratePath name with
      | error e => rfl
      | ok path => cases c.file <;> rfl

/- A lookup that settles keeps the manifest it went by. -/
theorem lookup_settled
    {path : CratePath}
    (hFile : c.file = some source)
    (hAnswer : (c.lookup true name).1 = .ok path) :
    (c.lookup true name).2 =
      { c with kept := some c.manifest } := by
  rw [lookup_answer, if_pos rfl] at hAnswer
  simp [lookup, hAnswer, hFile]

/- Any other lookup leaves the cache alone. -/
theorem lookup_unsettled
    (hNot :
      ¬ (located = true ∧ c.file ≠ none ∧
        ∃ path, (c.lookup located name).1 = .ok path)) :
    (c.lookup located name).2 = c := by
  cases located with
  | false => rfl
  | true =>
      rw [lookup_answer, if_pos rfl] at hNot
      simp only [lookup, if_true]
      cases hPath : c.manifest.cratePath name with
      | error e => rfl
      | ok path =>
          cases hFile : c.file with
          | none => rfl
          | some source => simp [hPath, hFile] at hNot

/- No lookup changes the file. -/
theorem file_lookup
    (c : ManifestCache)
    (located : Bool)
    (name : String) :
    (c.lookup located name).2.file = c.file := by
  by_cases hSettled :
      located = true ∧ c.file ≠ none ∧
        ∃ path, (c.lookup located name).1 = .ok path
  · rcases hSettled with ⟨rfl, hFile, path, hAnswer⟩
    rcases Option.ne_none_iff_exists'.mp hFile with
      ⟨source, hSource⟩
    rw [lookup_settled hSource hAnswer]
  · rw [lookup_unsettled hSettled]

/- A step does to the file what the history says. -/
theorem file_step
    (c : ManifestCache)
    (s : CacheStep) :
    (c.step s).2.file = fileNext c.file s := by
  cases s with
  | write source => rfl
  | remove => rfl
  | lookup located name => exact file_lookup c located name

------------------------------------------------------------
-- Runs
------------------------------------------------------------

@[simp] theorem after_cons
    (c : ManifestCache)
    (s : CacheStep)
    (steps : List CacheStep) :
    c.after (s :: steps) = (c.step s).2.after steps :=
  rfl

theorem after_concat
    (c : ManifestCache)
    (steps : List CacheStep)
    (s : CacheStep) :
    c.after (steps ++ [s]) = ((c.after steps).step s).2 := by
  simp [after]

/- A run goes on from the cache that its front leaves. -/
theorem run_append
    (c : ManifestCache)
    (front back : List CacheStep) :
    c.run (front ++ back) =
      c.run front ++ (c.after front).run back := by
  induction front generalizing c with
  | nil => rfl
  | cons s front ih =>
      cases s <;> simp [run, step, ih]

/-
  The cache agrees with the history: it knows the file, and
  it keeps the manifest of the earliest lookup that settled
  one, or none if there is no such lookup.
-/
structure Tracks
    (c : ManifestCache)
    (steps : List CacheStep) : Prop where
  file : c.file = fileAfter steps
  unkept :
    c.kept = none → ∀ p, p <+: steps → ¬ Settles p
  kept :
    ∀ m, c.kept = some m →
      ∃ source,
        FirstSettled steps source ∧
          m = ManifestReader.read source

/-
  A step that settles nothing and keeps what is kept goes on
  agreeing with the history.
-/
theorem Tracks.concat
    {s : CacheStep}
    {next : ManifestCache}
    (hTracks : c.Tracks steps)
    (hFile : next.file = fileAfter (steps ++ [s]))
    (hKept : next.kept = c.kept)
    (hNot : ¬ Settles (steps ++ [s])) :
    next.Tracks (steps ++ [s]) := by
  refine ⟨hFile, ?_, ?_⟩
  · intro hNone p hPrefix
    rw [hKept] at hNone
    rcases List.prefix_concat_iff.mp hPrefix with rfl | hBefore
    · exact hNot
    · exact hTracks.unkept hNone p hBefore
  · intro m hSome
    rw [hKept] at hSome
    rcases hTracks.kept m hSome with ⟨source, hFirst, hText⟩
    exact
      ⟨source, hFirst.mono (List.prefix_append _ _), hText⟩

/- The manifest of a cache that agrees with the history. -/
theorem Tracks.manifest_eq
    (hTracks : c.Tracks steps)
    (hFile : fileAfter steps = some source) :
    (∃ first,
        FirstSettled steps first ∧
          c.manifest = ManifestReader.read first) ∨
      ((∀ p, p <+: steps → ¬ Settles p) ∧
        c.manifest = ManifestReader.read source) := by
  rw [← hTracks.file] at hFile
  cases hKept : c.kept with
  | none =>
      right
      refine ⟨hTracks.unkept hKept, ?_⟩
      simp [manifest, hFile, hKept]
  | some m =>
      left
      rcases hTracks.kept m hKept with ⟨first, hFirst, rfl⟩
      refine ⟨first, hFirst, ?_⟩
      simp [manifest, hFile, hKept]

/- One more step keeps a fresh cache true to its history. -/
theorem tracks_step
    (steps : List CacheStep)
    (s : CacheStep)
    (hTracks : (fresh.after steps).Tracks steps) :
    ((fresh.after steps).step s).2.Tracks (steps ++ [s]) := by
  have hFile := hTracks.file
  have hNext :
      ((fresh.after steps).step s).2.file =
        fileAfter (steps ++ [s]) := by
    rw [fileAfter_concat, file_step, hFile]
  by_cases hSettles : Settles (steps ++ [s])
  · -- The manifest that is kept now was kept before, or this
    -- is the first lookup that settles one.
    rcases exists_lookup_of_settles hSettles with
      ⟨name, source, path, rfl, hSource, hAnswer⟩
    have hKept :
        ((fresh.after steps).lookup true name).2.kept =
          some (fresh.after steps).manifest := by
      rw [lookup_settled (hFile.trans hSource) hAnswer]
    refine ⟨hNext, ?_, ?_⟩
    · intro hNone
      rw [step, hKept] at hNone
      cases hNone
    · intro m hSome
      rw [step, hKept] at hSome
      cases hSome
      rcases hTracks.manifest_eq hSource with
        ⟨first, hFirst, hText⟩ | ⟨hNone, hText⟩
      · exact
          ⟨first, hFirst.mono (List.prefix_append _ _), hText⟩
      · exact
          ⟨source, firstSettled_of_first hNone hSettles hSource,
            hText⟩
  · refine hTracks.concat hNext ?_ hSettles
    cases s with
    | write source => rfl
    | remove => rfl
    | lookup located name =>
        rw [step, lookup_unsettled]
        rw [hFile]
        exact mt settles_lookup_iff.mpr hSettles

/- Every run from a fresh cache agrees with its history. -/
theorem tracks_after
    (steps : List CacheStep) :
    (fresh.after steps).Tracks steps := by
  induction steps using List.reverseRecOn with
  | nil =>
      refine ⟨rfl, ?_, ?_⟩
      · rintro _ p hPrefix ⟨past, name, path, rfl, _⟩
        simp at hPrefix
      · intro m hSome
        cases hSome
  | append_singleton steps s ih =>
      rw [after_concat]
      exact tracks_step steps s ih

/-
  A lookup answers by the empty manifest without a directory
  or a file.  Otherwise it goes by the text of the file at the
  earliest lookup so far, this one included, that found the
  file and gave a path, or by the current text if there is no
  such lookup.  So later texts change no answer, and a failed
  lookup leaves all later answers as they are without it.
-/
theorem lookups_follow_history
    (past : List CacheStep)
    (located : Bool)
    (name : String) :
    let steps := past ++ [.lookup located name]
    let answer := answerAfter past located name
    (∀ later, ∃ answers,
        fresh.run (steps ++ later) =
            fresh.run past ++ answer :: answers ∧
          (∀ e, answer = .error e →
            fresh.run (past ++ later) =
              fresh.run past ++ answers)) ∧
      (located = false ∨ fileAfter past = none →
        answer = Manifest.empty.cratePath name) ∧
      (∀ current,
        located = true → fileAfter past = some current →
          (∃ source,
              FirstSettled steps source ∧
                answer =
                  (ManifestReader.read source).cratePath
                    name) ∨
            ((∀ p, p <+: steps → ¬ Settles p) ∧
              answer =
                (ManifestReader.read current).cratePath
                  name)) ∧
      (∀ early source,
        early <+: past → FirstSettled early source →
          located = true → fileAfter past ≠ none →
            answer =
              (ManifestReader.read source).cratePath name) := by
  intro steps answer
  have hTracks := tracks_after past
  have hAnswer :
      answer =
        (if located then (fresh.after past).manifest
          else .empty).cratePath name :=
    lookup_answer (fresh.after past) located name
  refine ⟨?_, ?_, ?_, ?_⟩
  · intro later
    refine
      ⟨((fresh.after past).lookup located name).2.run later,
        ?_, ?_⟩
    · rw [List.append_assoc, run_append]
      rfl
    · intro e hError
      have hSame :
          ((fresh.after past).lookup located name).2 =
            fresh.after past := by
        apply lookup_unsettled
        rintro ⟨_, _, path, hPath⟩
        rw [show ((fresh.after past).lookup located name).1 =
          answer from rfl, hError] at hPath
        cases hPath
      rw [hSame, run_append]
  · rintro (rfl | hFile)
    · exact hAnswer
    · rw [hAnswer]
      cases located with
      | false => rfl
      | true =>
          rw [← hTracks.file] at hFile
          simp [manifest, hFile]
  · rintro current rfl hFile
    rw [if_pos rfl] at hAnswer
    rcases hTracks.manifest_eq hFile with
      ⟨first, hFirst, hText⟩ | ⟨hNone, hText⟩
    · left
      refine
        ⟨first, hFirst.mono (List.prefix_append _ _), ?_⟩
      rw [hAnswer, hText]
    · rw [hText] at hAnswer
      by_cases hSettles : Settles steps
      · left
        exact
          ⟨current,
            firstSettled_of_first hNone hSettles hFile,
            hAnswer⟩
      · right
        refine ⟨?_, hAnswer⟩
        intro p hPrefix
        rcases List.prefix_concat_iff.mp hPrefix with
          rfl | hBefore
        · exact hSettles
        · exact hNone p hBefore
  · rintro early source hEarly hFirst rfl hFile
    rcases Option.ne_none_iff_exists'.mp hFile with
      ⟨current, hCurrent⟩
    rw [if_pos rfl] at hAnswer
    rcases hTracks.manifest_eq hCurrent with
      ⟨first, hFirst', hText⟩ | ⟨hNone, _⟩
    · rw [hAnswer, hText, hFirst'.unique (hFirst.mono hEarly)]
    · rcases hFirst with ⟨p, hPrefix, hSettles, _⟩
      exact
        absurd hSettles (hNone p (hPrefix.trans hEarly))

end Runs

/-
  A failed lookup keeps nothing; the next one keeps the text
  of its time, and neither removing the file nor writing it
  anew changes an answer.
-/
theorem lookups_follow_history_rewritten :
    let text := "[dependencies]\nvc_notation = \"1\"\n"
    let early : List CacheStep :=
      [.write "", .lookup true "1x", .write text]
    let settled := early ++ [.lookup true "vc_value"]
    let past := settled ++ [.remove, .write "[package]"]
    FirstSettled settled text ∧
      fileAfter past = some "[package]" ∧
        answerAfter past true "vc_value" =
          (Manifest.ofText text).cratePath "vc_value" ∧
            answerAfter past true "vc_value" =
              .ok ⟨["vc_notation", "value"]⟩ := by
  intro text early settled past
  have hAnswer :
      answerAfter early true "vc_value" =
        .ok ⟨["vc_notation", "value"]⟩ := by
    decide +kernel
  have hNothing : (fresh.after early).kept = none := by
    decide +kernel
  have hSettles : Settles settled :=
    settles_lookup_iff.mpr ⟨rfl, by decide, _, hAnswer⟩
  have hFirst : FirstSettled settled text :=
    firstSettled_of_first
      ((tracks_after early).unkept hNothing) hSettles rfl
  have hFile : fileAfter past = some "[package]" := rfl
  rcases lookups_follow_history past true "vc_value" with
    ⟨_, _, _, hLater⟩
  have hPast :=
    hLater settled text (List.prefix_append _ _) hFirst rfl
      (by simp [hFile])
  refine ⟨hFirst, hFile, hPast, ?_⟩
  rw [hPast]
  decide +kernel

end ManifestCache

end TreePath
