import SiteTrial.Sample.File
import SiteTrial.Proofs.Told

/-!
# Lines that are no records

A line of a sample file is skipped if it is no record, with a notice, and no other line matters for what
it holds. But a record in which a number is too large for its place, and a text in which lists and
mappings stand too deep, are not skipped: they end the reading of the whole file.

* `sampleIn?` : the sample of a line that is a record of one; `EndsReading` : a line that is not skipped;
* `Contained` : a computation that ends in no fault but those of malformed records and of large numbers;
  `contained_ofValue` : the reading of a record is one;
* `sample?_readLine`, `fault?_readLine` : what a line holds, in these words;
* `answer_readLines_of_none`, `answer_readLines_of_some` : the lines of a file;
* `answer_readSamples_iff` : what a file is read as, and when it is read at all.
-/

namespace SiteTrial

open Told

/-- The sample of a line that is a record of one. -/
def sampleIn? (line : List Char) : Option Sample :=
  (Json.read (String.ofList (Text.trimChars line))).toOption.bind fun v => (Sample.ofValue v).toOption

/-- A line that is not skipped although it is no record of a sample. -/
inductive EndsReading (line : List Char) : Fault → Prop where
  /-- Lists and mappings stand too deep inside each other. -/
  | tooDeep (hread : Json.read (String.ofList (Text.trimChars line)) = .error .tooDeep) :
      EndsReading line .tooDeep
  /-- An integer beyond the doubles stands where a double is read. -/
  | integerTooLarge {v : Value} (hread : Json.read (String.ofList (Text.trimChars line)) = .ok v)
      (hrecord : Sample.ofValue v = .error .integerTooLarge) : EndsReading line .integerTooLarge
  /-- An infinite number stands where an integer is read. -/
  | infiniteInteger {v : Value} (hread : Json.read (String.ofList (Text.trimChars line)) = .ok v)
      (hrecord : Sample.ofValue v = .error .infiniteInteger) : EndsReading line .infiniteInteger

/-! ## Faults of records -/

/-- The computation ends in no fault but those of malformed records and of large numbers. -/
def Contained {α : Type} (x : Except Fault α) : Prop :=
  ∀ f, x = .error f → f.isMalformed = true ∨ f = .integerTooLarge ∨ f = .infiniteInteger

namespace Contained

variable {α β : Type}

theorem ok (a : α) : Contained (.ok a) := by
  intro f hf
  cases hf

theorem error {f : Fault} (h : f.isMalformed = true) : Contained (.error f : Except Fault α) := by
  intro f' hf
  cases hf
  exact .inl h

theorem bind {x : Except Fault α} {k : α → Except Fault β} (hx : Contained x)
    (hk : ∀ a, Contained (k a)) : Contained (x >>= k) := by
  intro f hf
  cases x with
  | error f' =>
      cases hf
      exact hx f rfl
  | ok a => exact hk a f hf

theorem map {x : Except Fault α} (hx : Contained x) (g : α → β) : Contained (x.map g) := by
  intro f hf
  cases x with
  | error f' =>
      cases hf
      exact hx f rfl
  | ok a => cases hf

theorem mapM {k : α → Except Fault β} (hk : ∀ a, Contained (k a)) (l : List α) :
    Contained (l.mapM k) := by
  induction l with
  | nil => exact ok []
  | cons a l ih =>
      rw [List.mapM_cons]
      exact bind (hk a) fun _ => bind ih fun _ => ok _

end Contained

open Contained

theorem contained_integerOf (r : Decimal.Binary.Rounding) (x : Float) : Contained (integerOf r x) := by
  unfold integerOf
  split
  · exact error rfl
  · intro f hf
    cases hf
    exact .inr (.inr rfl)
  · exact ok _

namespace Value

theorem contained_member (v : Value) (key : String) : Contained (v.member key) := by
  unfold member
  split
  · exact ok _
  · exact error rfl

theorem contained_memberD (v : Value) (key : String) (other : Value) :
    Contained (v.memberD key other) := by
  unfold memberD
  split
  · exact ok _
  · exact error rfl

theorem contained_memberText (v : Value) (key other : String) :
    Contained (v.memberText key other) :=
  bind (contained_memberD _ _ _) fun _ => ok _

theorem contained_doubleOfInt (n : Int) : Contained (doubleOfInt n) := by
  unfold doubleOfInt
  dsimp only
  split
  · exact ok _
  · intro f hf
    cases hf
    exact .inr (.inl rfl)

theorem contained_numericOrZero (v : Value) : Contained v.numericOrZero := by
  refine Contained.map ?_ _
  unfold numeric?
  split
  · exact ok _
  · exact Contained.map (contained_doubleOfInt _) _
  · exact ok _
  · exact ok _

theorem contained_memberDouble (v : Value) (key : String) : Contained (v.memberDouble key) :=
  bind (contained_member _ _) contained_numericOrZero

theorem contained_memberCount (v : Value) (key : String) : Contained (v.memberCount key) :=
  bind (contained_memberDouble _ _) (contained_integerOf _)

theorem contained_toInteger (v : Value) : Contained v.toInteger := by
  unfold toInteger
  split
  · exact ok _
  · exact ok _
  · exact contained_integerOf _ _
  · split
    · exact ok _
    · exact error rfl
  · split
    · exact ok _
    · exact error rfl
  · exact error rfl

theorem contained_walk (v : Value) : Contained v.walk := by
  unfold walk
  split
  all_goals first | exact ok _ | exact error rfl

theorem contained_toEntry (index : Nat) (v : Value) : Contained (toEntry index v) := by
  unfold toEntry
  split
  · exact error rfl
  · refine Contained.map ?_ _
    unfold toKey
    split
    · exact ok _
    · exact error rfl
  · exact error rfl

theorem contained_toEntries (index : Nat) (vs : List Value) : Contained (toEntries index vs) := by
  induction vs generalizing index with
  | nil => exact ok []
  | cons v vs ih =>
      unfold toEntries
      exact bind (contained_toEntry _ _) fun _ => bind (ih _) fun _ => ok _

theorem contained_toFields (v : Value) : Contained v.toFields := by
  unfold toFields
  split
  · exact ok _
  · exact bind (contained_walk _) fun _ => bind (contained_toEntries _ _) fun _ => ok _

end Value

open Value

theorem contained_resourceOfValue (v : Value) : Contained (ResourceTiming.ofValue v) :=
  bind (contained_memberText _ _ _) fun _ => bind (contained_memberText _ _ _) fun _ =>
    bind (contained_memberDouble _ _) fun _ => bind (contained_memberCount _ _) fun _ =>
      bind (contained_memberCount _ _) fun _ => ok _

theorem contained_vitalsOfValue (v : Value) : Contained (Vitals.ofValue v) :=
  bind (contained_memberDouble _ _) fun _ => bind (contained_memberDouble _ _) fun _ =>
    bind (contained_memberDouble _ _) fun _ => bind (contained_memberDouble _ _) fun _ => ok _

theorem contained_timingsOfValue (v : Value) : Contained (Timings.ofValue v) := by
  unfold Timings.ofValue
  -- eight numbers, and the loads of the resources
  iterate 8 refine bind (contained_memberDouble _ _) fun _ => ?_
  refine bind (contained_member _ _) fun _ => bind (contained_walk _) fun entries => ?_
  exact bind (Contained.mapM contained_resourceOfValue entries) fun _ => ok _

theorem contained_metricsOfValue (v : Value) : Contained (ApplicationMetrics.ofValue v) := by
  have hheading : ∀ key, Contained (ApplicationMetrics.heading v key) := fun key =>
    bind (contained_member _ _) fun _ => contained_toFields _
  exact bind (hheading _) fun _ => bind (hheading _) fun _ => bind (hheading _) fun _ => ok _

/-- A value is read as a sample, or is malformed, or holds a number that is too large for its place. -/
theorem contained_ofValue (v : Value) : Contained (Sample.ofValue v) := by
  have hpart : ∀ key, Contained (Sample.part v key) := fun key =>
    bind (contained_member _ _) fun _ => ok _
  unfold Sample.ofValue
  -- the three parts, the five texts, the iteration, what the parts hold, and the last text
  iterate 3 refine bind (hpart _) fun _ => ?_
  iterate 5 refine bind (contained_memberText _ _ _) fun _ => ?_
  refine bind (contained_memberD _ _ _) fun _ => bind (contained_toInteger _) fun _ => ?_
  refine bind (contained_vitalsOfValue _) fun _ => ?_
  refine bind (contained_timingsOfValue _) fun _ => ?_
  refine bind (contained_metricsOfValue _) fun _ => ?_
  exact bind (contained_memberText _ _ _) fun _ => ok _

/-! ## One line -/

namespace LineContent

/-- The sample that a line holds. -/
def sample? : LineContent → Option Sample
  | .sample s => some s
  | _ => none

/-- The fault in which a line ends the reading. -/
def fault? : LineContent → Option Fault
  | .broken f => some f
  | _ => none

def isMalformed : LineContent → Bool
  | .malformed => true
  | _ => false

end LineContent

theorem read_nil : Json.read (String.ofList []) = .error .malformed := rfl

theorem sample?_readLine (line : List Char) : (readLine line).sample? = sampleIn? line := by
  unfold readLine sampleIn?
  dsimp only
  split
  · next hblank =>
      rw [List.isEmpty_iff.1 hblank, read_nil]
      rfl
  · cases Json.read (String.ofList (Text.trimChars line)) with
    | error e => cases e <;> rfl
    | ok v =>
        dsimp only [Except.toOption, Option.bind]
        cases Sample.ofValue v with
        | ok s => rfl
        | error f => cases hf : f.isMalformed <;> simp [hf, LineContent.sample?]

/-- A line ends the reading in a fault exactly if it is not skipped although it is no record. -/
theorem fault?_readLine {line : List Char} {f : Fault} :
    (readLine line).fault? = some f ↔ EndsReading line f := by
  unfold readLine
  dsimp only
  constructor
  · intro h
    split at h
    · cases h
    · split at h
      · next hread =>
          cases h
          exact .tooDeep hread
      · cases h
      · next v hread =>
          split at h
          · cases h
          · next f' hrecord =>
              split at h
              · cases h
              · next hlarge =>
                  cases h
                  rcases contained_ofValue v f hrecord with hmalformed | rfl | rfl
                  · exact absurd hmalformed hlarge
                  · exact .integerTooLarge hread hrecord
                  · exact .infiniteInteger hread hrecord
  · intro h
    -- a blank line would be malformed as a text
    have hsome : ∀ {r}, Json.read (String.ofList (Text.trimChars line)) = r → r ≠ .error .malformed →
        (Text.trimChars line).isEmpty = false := by
      intro r hread hr
      rw [Bool.eq_false_iff]
      intro hblank
      rw [List.isEmpty_iff.1 hblank, read_nil] at hread
      exact hr hread.symm
    cases h with
    | tooDeep hread => simp [hsome hread, hread, LineContent.fault?]
    | integerTooLarge hread hrecord =>
        simp [hsome hread, hread, hrecord, LineContent.fault?, Fault.isMalformed]
    | infiniteInteger hread hrecord =>
        simp [hsome hread, hread, hrecord, LineContent.fault?, Fault.isMalformed]

/-! ## All lines -/

theorem isSteady_readLines (path : String) (number : Nat) (lines : List (List Char)) :
    IsSteady (readLines path number lines) := by
  induction lines generalizing number with
  | nil => exact isSteady_pure []
  | cons line lines ih =>
      unfold readLines
      split
      · exact ih _
      · exact isSteady_bind (ih _) fun _ => isSteady_pure _
      · exact isSteady_bind (isSteady_tell _) fun _ => ih _
      · exact isSteady_throw _

theorem isSteady_readSamples (fs : Files) (path : String) : IsSteady (readSamples fs path) := by
  unfold readSamples
  split
  · exact isSteady_pure []
  · exact isSteady_readLines _ _ _

/-- The answer for a line and the lines behind it. -/
theorem answer_readLines_cons (path : String) (number : Nat) (line : List Char)
    (lines : List (List Char)) :
    (readLines path number (line :: lines)).answer =
      match (readLine line).fault? with
      | some f => .error (.fault f)
      | none => (readLines path (number + 1) lines).answer.map ((sampleIn? line).toList ++ ·) := by
  rw [← sample?_readLine, readLines]
  cases readLine line with
  | blank =>
      show (readLines path (number + 1) lines).answer = (readLines path (number + 1) lines).answer.map _
      cases (readLines path (number + 1) lines).answer <;> rfl
  | sample s =>
      show (readLines path (number + 1) lines >>= fun ss => pure (s :: ss)).answer = _
      rw [answer_bind _ fun _ => isSteady_pure _]
      cases (readLines path (number + 1) lines).answer <;> rfl
  | malformed =>
      show (Told.tell _ >>= fun _ => readLines path (number + 1) lines).answer =
        (readLines path (number + 1) lines).answer.map _
      rw [answer_bind _ fun _ => isSteady_readLines _ _ _]
      cases (readLines path (number + 1) lines).answer <;> rfl
  | broken f => rfl

theorem answer_readLines_of_none {path : String} {number : Nat} {lines : List (List Char)}
    (h : ∀ line ∈ lines, ∀ f, ¬ EndsReading line f) :
    (readLines path number lines).answer = .ok (lines.filterMap sampleIn?) := by
  induction lines generalizing number with
  | nil => rfl
  | cons line lines ih =>
      have hline : (readLine line).fault? = none :=
        Option.eq_none_iff_forall_ne_some.2 fun f hf =>
          h line (List.mem_cons_self ..) f (fault?_readLine.1 hf)
      rw [answer_readLines_cons, hline, ih fun line hmem => h line (List.mem_cons_of_mem _ hmem),
        List.filterMap_cons]
      cases sampleIn? line <;> rfl

theorem answer_readLines_of_some {path : String} {number : Nat} {lines : List (List Char)}
    (h : ∃ line ∈ lines, ∃ f, EndsReading line f) :
    ∃ f, (readLines path number lines).answer = .error (.fault f) := by
  induction lines generalizing number with
  | nil => simp at h
  | cons line lines ih =>
      rw [answer_readLines_cons]
      cases hline : (readLine line).fault? with
      | some f => exact ⟨f, rfl⟩
      | none =>
          obtain ⟨other, hmem, f, hends⟩ := h
          have hlater : other ∈ lines := by
            rcases List.mem_cons.1 hmem with rfl | hmem
            · rw [fault?_readLine.2 hends] at hline
              cases hline
            · exact hmem
          obtain ⟨f, hf⟩ := @ih (number + 1) ⟨other, hlater, f, hends⟩
          exact ⟨f, by rw [hf]; rfl⟩

/-- A file is read exactly if none of its lines ends the reading, and it is then read as the samples of
those lines that are records of one, in their order: every other line is skipped, and what a line is
read as is found from that line alone. -/
theorem answer_readSamples_iff {fs : Files} {path text : String} (hfile : fs.read? path = some text)
    (samples : List Sample) :
    (readSamples fs path).answer = .ok samples ↔
      (∀ line ∈ Text.lines text, ∀ f, ¬ EndsReading line f) ∧
        samples = (Text.lines text).filterMap sampleIn? := by
  have hread : readSamples fs path = readLines path 1 (Text.lines text) := by
    rw [readSamples, hfile]
  rw [hread]
  constructor
  · intro h
    have hnone : ∀ line ∈ Text.lines text, ∀ f, ¬ EndsReading line f := by
      intro line hmem f hends
      obtain ⟨f', hf'⟩ := @answer_readLines_of_some path 1 _ ⟨line, hmem, f, hends⟩
      rw [hf'] at h
      cases h
    rw [answer_readLines_of_none hnone] at h
    cases h
    exact ⟨hnone, rfl⟩
  · rintro ⟨hnone, rfl⟩
    exact answer_readLines_of_none hnone

/-- A file with one text under one name. -/
def filed (name text : String) : Files := ⟨[([name], .file text)]⟩

/-- A blank line, an iteration that is no number, a list, half a record, and a record. -/
def mixedLines : String :=
  "\n\x7b\"iteration\": \"x\"\x7d\n[1]\n\x7b\"url\":\n\x7b\"scenario\": \"login\"\x7d\n"

/-- Of the five lines of such a file four are skipped. -/
theorem answer_readSamples_iff_mixed :
    (filed "samples.jsonl" mixedLines).read? "samples.jsonl" = some mixedLines ∧
      ∃ samples, (readSamples (filed "samples.jsonl" mixedLines) "samples.jsonl").answer = .ok samples ∧
        samples.map (·.scenario) = ["login"] := by
  have hfile : (filed "samples.jsonl" mixedLines).read? "samples.jsonl" = some mixedLines := by
    decide +kernel
  have hfaults : ∀ line ∈ Text.lines mixedLines, (readLine line).fault? = none := by
    decide +kernel
  refine ⟨hfile, (Text.lines mixedLines).filterMap sampleIn?, ?_, by decide +kernel⟩
  refine (answer_readSamples_iff hfile _).2 ⟨fun line hmem f hends => ?_, rfl⟩
  have hsome := fault?_readLine.2 hends
  rw [hfaults line hmem] at hsome
  cases hsome

/-- A record with an infinite iteration, and a record. -/
def infiniteLines : String := "\x7b\"iteration\": Infinity\x7d\n\x7b\"scenario\": \"login\"\x7d\n"

/-- The second of these lines is a record of a sample, but the first one keeps it from being read. -/
theorem infinite_iteration_ends_reading :
    ((Text.lines infiniteLines).filterMap sampleIn?).map (·.scenario) = ["login"] ∧
      (readSamples (filed "samples.jsonl" infiniteLines) "samples.jsonl").answer =
        .error (.fault .infiniteInteger) := by
  refine ⟨by decide +kernel, ?_⟩
  have hfile : (filed "samples.jsonl" infiniteLines).read? "samples.jsonl" = some infiniteLines := by
    decide +kernel
  obtain ⟨first, hlines⟩ : ∃ first, Text.lines infiniteLines =
      first :: ["\x7b\"scenario\": \"login\"\x7d".toList] := ⟨_, rfl⟩
  have hends : (readLine ((Text.lines infiniteLines).head (by decide +kernel))).fault? =
      some .infiniteInteger := by
    decide +kernel
  simp only [hlines, List.head_cons] at hends
  rw [readSamples, hfile]
  show (readLines _ 1 (Text.lines infiniteLines)).answer = _
  rw [hlines, answer_readLines_cons, hends]

end SiteTrial
