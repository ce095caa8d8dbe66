import FormLine.Session
/-!
# Sessions over their history

What a session holds and answers is a function of the requests that came before, and that function is
written here without the session: the log is the notes made before the first reading, the findings of
the specification if there was a reading, and the notes made since (`logAfter`), and every answer is
read off it (`answerTo`).

`step_heldAfter` is the step: a session that holds what its history says holds what the longer history
says once a request has been answered, and the answer is the one that was foretold. `answers_of_history`
is the run. Requests without an effect can be taken out of a history (`after_effects`).
-/

namespace FormLine.Session

/-! ## Requests -/

/-- The request needs the metadata, so the specification is read if it was not read before. -/
def Request.reads : Request → Bool
  | .metadata | .report | .titled _ | .assign _ => true
  | _ => false

/-- The diagnostic that the request puts into the log; a title or message that is no text puts none. -/
def Request.noted? : Request → Option Diagnostic
  | .note (.str title) (.str message) => some ⟨title, message⟩
  | _ => none

/-- What is wrong with a value that should be a text. -/
def textProblems (key : String) : Json → List Problem
  | .str _ => []
  | _ => [⟨[.key key], .string⟩]

/-- The request as far as it has an effect: a note that is made, or a reading. -/
def Request.effect? (r : Request) : Option Request :=
  if r.reads then some .metadata else r.noted?.map fun d => .note (.str d.title) (.str d.message)

/-! ## What a history says -/

/-- The notes that requests make, in order. -/
def noted (requests : List Request) : List Diagnostic := requests.filterMap Request.noted?

/-- Whether one of the requests was a reading. -/
def wasRead (requests : List Request) : Bool := requests.any Request.reads

/-- The requests before the first reading. -/
def early (requests : List Request) : List Request := requests.takeWhile fun r => !r.reads

/-- The first reading and the requests behind it. -/
def late (requests : List Request) : List Request := requests.dropWhile fun r => !r.reads

/-- The log after the requests. -/
def logAfter (spec : String) (requests : List Request) : List Diagnostic :=
  noted (early requests) ++
    ((if wasRead requests then (Report.ofSpec spec).diagnostics else []) ++ noted (late requests))

/-- The answer to a request that comes after the others. -/
def answerTo (spec : String) (before : List Request) (r : Request) : Answer :=
  match r with
  | .tokens => .tokens (Token.ofText spec)
  | .argumentMap => .argumentMap (Token.argumentMap (Token.ofText spec))
  | .log | .clearCopy => .diagnostics (logAfter spec before)
  | .note title message =>
    match textProblems "title" title ++ textProblems "message" message with
    | [] => .diagnostics (logAfter spec (before ++ [r]))
    | problems => .problems problems
  | .componentName => .component (Report.ofSpec spec).metadata.component
  | .componentArguments => .arguments (Report.ofSpec spec).metadata.arguments
  | .metadata => .metadata (Report.ofSpec spec).metadata
  | .report => .report ⟨spec, (Report.ofSpec spec).metadata, logAfter spec (before ++ [r])⟩
  | .titled (.str title) => .diagnostics ((logAfter spec (before ++ [r])).filter (·.title == title))
  | .titled _ => .diagnostics []
  | .assign fieldName => .frozen fieldName

/-- The session that a history leaves behind. -/
def heldAfter (spec : String) (requests : List Request) : Session where
  spec := spec
  tokens := Token.ofText spec
  log := logAfter spec requests
  metadata := if wasRead requests then some (Report.ofSpec spec).metadata else none

/-- The session after requests. -/
def after (s : Session) (requests : List Request) : Session :=
  requests.foldl (fun s r => (s.step r).1) s

/-! ## One request more -/

theorem wasRead_concat (before : List Request) (r : Request) :
    wasRead (before ++ [r]) = (wasRead before || r.reads) := by
  simp [wasRead]

theorem noted_append (before more : List Request) :
    noted (before ++ more) = noted before ++ noted more :=
  List.filterMap_append

theorem noted_singleton (r : Request) : noted [r] = r.noted?.toList := by
  cases h : r.noted? with
  | none => simp [noted, h]
  | some d => simp [noted, h]

theorem noted?_of_reads {r : Request} (h : r.reads = true) : r.noted? = none := by
  cases r with
  | note title message => simp [Request.reads] at h
  | _ => rfl

/-- Behind a reading every request is late. -/
theorem split_of_read {before : List Request} (h : wasRead before = true) (r : Request) :
    early (before ++ [r]) = early before ∧ late (before ++ [r]) = late before ++ [r] := by
  induction before with
  | nil => simp [wasRead] at h
  | cons q rest ih =>
    cases hq : q.reads with
    | true => simp [early, late, hq]
    | false =>
      have hrest : wasRead rest = true := by simpa [wasRead, hq] using h
      obtain ⟨hearly, hlate⟩ := ih hrest
      constructor
      · simpa [early, hq] using hearly
      · simpa [late, hq] using hlate

/-- Without a reading every request is early. -/
theorem split_of_unread {before : List Request} (h : wasRead before = false) (more : List Request) :
    early (before ++ more) = before ++ early more ∧ late (before ++ more) = late more := by
  have hall : ∀ q ∈ before, (!q.reads) = true := by
    intro q hq
    have hq : ¬ q.reads = true := List.any_eq_false.mp h q hq
    simpa using hq
  exact ⟨List.takeWhile_append_of_pos hall, List.dropWhile_append_of_pos hall⟩

/-- A request appends the findings, if it is the first reading, or what it notes. -/
theorem logAfter_concat (spec : String) (before : List Request) (r : Request) :
    logAfter spec (before ++ [r]) = logAfter spec before ++
      ((if r.reads && !wasRead before then (Report.ofSpec spec).diagnostics else []) ++
        r.noted?.toList) := by
  unfold logAfter
  rw [wasRead_concat]
  cases hread : wasRead before with
  | true =>
    obtain ⟨hearly, hlate⟩ := split_of_read hread r
    rw [hearly, hlate, noted_append, noted_singleton]
    simp
  | false =>
    obtain ⟨hearly, hlate⟩ := split_of_unread hread [r]
    obtain ⟨hearly', hlate'⟩ := split_of_unread hread []
    have hbefore : early before = before := by simpa [early] using hearly'
    have hnone : late before = [] := by simpa [late] using hlate'
    rw [hearly, hlate, hbefore, hnone, noted_append]
    have hnil : noted [] = [] := rfl
    cases hr : r.reads with
    | true => simp [early, late, hr, hnil, noted_singleton, noted?_of_reads hr]
    | false => simp [early, late, hr, hnil, noted_singleton]

/-- A request that neither reads nor notes anything leaves the session as it was. -/
theorem heldAfter_idle (spec : String) (before : List Request) {r : Request}
    (hread : r.reads = false) (hnote : r.noted? = none) :
    heldAfter spec (before ++ [r]) = heldAfter spec before := by
  have hlog : logAfter spec (before ++ [r]) = logAfter spec before := by
    rw [logAfter_concat, hread, hnote]
    simp
  simp only [heldAfter, hlog, wasRead_concat, hread, Bool.or_false]

theorem heldAfter_note (spec : String) (before : List Request) {r : Request} {d : Diagnostic}
    (hread : r.reads = false) (hnote : r.noted? = some d) :
    heldAfter spec (before ++ [r]) = (heldAfter spec before).note d := by
  have hlog : logAfter spec (before ++ [r]) = logAfter spec before ++ [d] := by
    rw [logAfter_concat, hread, hnote]
    simp
  simp only [heldAfter, note, hlog, wasRead_concat, hread, Bool.or_false]

/-- Reading adds the findings once and gives the metadata of the specification every time. -/
theorem read_heldAfter (spec : String) (before : List Request) {r : Request} (hread : r.reads = true) :
    (heldAfter spec before).read =
      (heldAfter spec (before ++ [r]), (Report.ofSpec spec).metadata) := by
  have hlog := logAfter_concat spec before r
  rw [hread, noted?_of_reads hread] at hlog
  cases hbefore : wasRead before with
  | true =>
    have hlog : logAfter spec (before ++ [r]) = logAfter spec before := by
      rw [hlog, hbefore]
      simp
    simp [read, heldAfter, hbefore, hlog, wasRead_concat]
  | false =>
    have hlog : logAfter spec (before ++ [r]) =
        logAfter spec before ++ (Report.ofSpec spec).diagnostics := by
      rw [hlog, hbefore]
      simp
    simp [read, heldAfter, hbefore, hlog, wasRead_concat, hread, Report.ofSpec]

/-- A note is checked for two texts, and all that is wrong with them is reported. -/
theorem check_note (title message : Json) :
    (∃ d, (Request.note title message).noted? = some d ∧
      Check.diagnostic [("title", title), ("message", message)] = .valid d ∧
      textProblems "title" title ++ textProblems "message" message = []) ∨
    ((Request.note title message).noted? = none ∧
      ∃ p ps, Check.diagnostic [("title", title), ("message", message)] = .invalid (p :: ps) ∧
        textProblems "title" title ++ textProblems "message" message = p :: ps) := by
  cases title with
  | str title =>
    cases message with
    | str message => exact .inl ⟨⟨title, message⟩, rfl, rfl, rfl⟩
    | _ => exact .inr ⟨rfl, _, _, rfl, rfl⟩
  | _ => cases message <;> exact .inr ⟨rfl, _, _, rfl, rfl⟩

/-! ## Steps and runs -/

theorem step_heldAfter (spec : String) (before : List Request) (r : Request) :
    (heldAfter spec before).step r = (heldAfter spec (before ++ [r]), answerTo spec before r) := by
  -- One case for each request: the idle ones, the note, and the ones that read.
  cases r with
  | tokens => rw [heldAfter_idle spec before rfl rfl]; rfl
  | argumentMap => rw [heldAfter_idle spec before rfl rfl]; rfl
  | log => rw [heldAfter_idle spec before rfl rfl]; rfl
  | clearCopy => rw [heldAfter_idle spec before rfl rfl]; rfl
  | componentName => rw [heldAfter_idle spec before rfl rfl]; rfl
  | componentArguments => rw [heldAfter_idle spec before rfl rfl]; rfl
  | note title message =>
    have hread : (Request.note title message).reads = false := rfl
    rcases check_note title message with ⟨d, hnote, hcheck, hnone⟩ | ⟨hnote, p, ps, hcheck, hsome⟩
    · have hheld := heldAfter_note spec before hread hnote
      simp only [step, hcheck, answerTo, hnone, ← hheld]
      rfl
    · have hheld := heldAfter_idle spec before hread hnote
      simp only [step, hcheck, answerTo, hsome, hheld]
  | metadata =>
    have hread := read_heldAfter spec before (r := .metadata) rfl
    simp only [step, hread, answerTo]
  | report =>
    have hread := read_heldAfter spec before (r := .report) rfl
    simp only [step, report, hread, answerTo]
    rfl
  | titled title =>
    have hread := read_heldAfter spec before (r := .titled title) rfl
    simp only [step, report, hread]
    cases title <;> rfl
  | assign fieldName =>
    have hread := read_heldAfter spec before (r := .assign fieldName) rfl
    simp only [step, hread, answerTo]

theorem after_heldAfter (spec : String) (before requests : List Request) :
    (heldAfter spec before).after requests = heldAfter spec (before ++ requests) := by
  induction requests generalizing before with
  | nil => rw [List.append_nil]; rfl
  | cons r rest ih =>
    calc (heldAfter spec before).after (r :: rest)
        = ((heldAfter spec before).step r).1.after rest := rfl
      _ = (heldAfter spec (before ++ [r])).after rest := by rw [step_heldAfter]
      _ = heldAfter spec (before ++ r :: rest) := by rw [ih, List.append_assoc]; rfl

theorem after_ofSpec (spec : String) (requests : List Request) :
    (ofSpec spec).after requests = heldAfter spec requests :=
  after_heldAfter spec [] requests

/-- The answers to requests that come after others. -/
theorem run_heldAfter (spec : String) (before requests : List Request) :
    (heldAfter spec before).run requests =
      requests.mapIdx fun i r => answerTo spec (before ++ requests.take i) r := by
  induction requests generalizing before with
  | nil => rfl
  | cons r rest ih =>
    have hstep := step_heldAfter spec before r
    rw [run, hstep, ih, List.mapIdx_cons]
    simp

/-! ## Requests without an effect -/

theorem reads_effect {r q : Request} (h : r.effect? = some q) :
    q.reads = r.reads ∧ q.noted? = r.noted? := by
  unfold Request.effect? at h
  cases hr : r.reads with
  | true =>
    rw [if_pos hr] at h
    cases h
    exact ⟨rfl, (noted?_of_reads hr).symm⟩
  | false =>
    rw [if_neg (by simp [hr])] at h
    obtain ⟨d, hd, rfl⟩ := Option.map_eq_some_iff.mp h
    exact ⟨rfl, hd.symm⟩

theorem effect?_eq_none {r : Request} (h : r.effect? = none) : r.reads = false ∧ r.noted? = none := by
  unfold Request.effect? at h
  cases hr : r.reads with
  | true => simp [hr] at h
  | false => exact ⟨rfl, by simpa [hr] using h⟩

/-- Only readings and notes that are made leave a trace. -/
theorem after_effects (spec : String) (requests : List Request) {before before' : List Request}
    (h : heldAfter spec before = heldAfter spec before') :
    heldAfter spec (before ++ requests.filterMap Request.effect?) =
      heldAfter spec (before' ++ requests) := by
  -- The two histories differ, so the induction is over all pairs that leave the same session behind.
  induction requests generalizing before before' with
  | nil => simpa using h
  | cons r rest ih =>
    have hnext : ∀ q : Request, heldAfter spec (before ++ [q]) = heldAfter spec (before' ++ [q]) := by
      intro q
      have hstep := step_heldAfter spec before q
      rw [h, step_heldAfter] at hstep
      exact (congrArg Prod.fst hstep).symm
    cases hr : r.effect? with
    | none =>
      obtain ⟨hread, hnote⟩ := effect?_eq_none hr
      have hsame : heldAfter spec before = heldAfter spec (before' ++ [r]) := by
        rw [heldAfter_idle spec before' hread hnote, h]
      have htail := ih hsame
      simpa [hr] using htail
    | some q =>
      obtain ⟨hread, hnote⟩ := reads_effect hr
      have hsame : heldAfter spec (before ++ [q]) = heldAfter spec (before' ++ [r]) := by
        rw [hnext q]
        simp only [heldAfter, logAfter_concat, wasRead_concat, hread, hnote]
      have htail := ih hsame
      simpa [hr] using htail

/-- The finding stands once, between the notes made before the first reading and those made since. -/
example : logAfter "select required"
    [.note (.str "a") (.str "1"), .note (.str "b") .null, .report, .note (.str "c") (.str "2"), .metadata] =
    [⟨"a", "1"⟩, ⟨"select", "Requires arguments"⟩, ⟨"c", "2"⟩] := by cbv

end FormLine.Session
