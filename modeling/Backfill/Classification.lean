import Backfill.Client.Session
import Backfill.PermanentFailurePlugin

/-!
# What survives the flattening of an error to a text

The hook of `PermanentFailurePlugin` is given a text and derives the variant again by
looking for patterns. Every rendering is a fixed label and the free texts of the error with
characters between them that occur in no pattern, so the verdict on the whole is a verdict
on the pieces.
-/

namespace Backfill

/-- The patterns of `classify_from_message` that are permanent on their own. -/
def permanentPatterns : List String :=
  ["invalid input", "invalid parameter", "malformed", "parse error", "syntax error",
    "unauthorized", "not authorized", "forbidden", "permission denied", "not found",
    "does not exist", "bad request", "request format"]

def mentionsPermanent (msgLower : List Char) : Bool := permanentPatterns.any (contains msgLower)

def mentionsFailure (msgLower : List Char) : Bool :=
  contains msgLower "failed" || contains msgLower "error"

/-- Some piece of a lower-cased text is permanent on its own, or one speaks of a validation
and one of a failure. -/
def permanentTexts (pieces : List (List Char)) : Bool :=
  pieces.any mentionsPermanent ||
    (pieces.any (contains · "validation") && pieces.any mentionsFailure)

/-- The lower-cased text makes `classify_from_message` give a non-retryable variant. -/
def permanentText (msgLower : List Char) : Bool := permanentTexts [msgLower]

/-- The verdict of the ordered tests. -/
theorem classifyFromMessage_isRetryable (tables : CharTables) (message : String) :
    (WorkerError.classifyFromMessage tables message).isRetryable =
      !permanentText (tables.toLowercase message) := by
  simp only [WorkerError.classifyFromMessage, apply_ite WorkerError.isRetryable]
  simp only [WorkerError.isRetryable, ite_self, permanentText, permanentTexts, mentionsPermanent,
    mentionsFailure, permanentPatterns, List.any_cons, List.any_nil, Bool.or_false]
  grind

/-- Every pattern the verdict depends on. -/
def verdictPatterns : List String := permanentPatterns ++ ["validation", "failed", "error"]

/-- A character that occurs in no pattern. -/
def Separator (c : Char) : Prop := ∀ pattern ∈ verdictPatterns, c ∉ pattern.toList

instance (c : Char) : Decidable (Separator c) :=
  inferInstanceAs (Decidable (∀ pattern ∈ verdictPatterns, _))

/-- No pattern starts with a blank. -/
theorem blank_apart {pattern : String} (member : pattern ∈ verdictPatterns) :
    pattern.toList.head? ≠ some ' ' := by
  revert pattern
  decide

/-! ### Cutting a text into pieces -/

section Pieces

variable {whole a b : List Char} {c : Char} {rest : List (List Char)}

/-- The verdict depends on nothing but where the patterns are found, so a text can be
replaced by pieces in which the same patterns are found. -/
theorem permanentTexts_cut (pieces : List (List Char))
    (cut : ∀ pattern ∈ verdictPatterns, contains whole pattern = pieces.any (contains · pattern)) :
    permanentTexts (whole :: rest) = permanentTexts (pieces ++ rest) := by
  have permanent : mentionsPermanent whole = pieces.any mentionsPermanent := by
    rw [Bool.eq_iff_iff]
    simp only [mentionsPermanent, List.any_eq_true]
    constructor
    · rintro ⟨pattern, member, found⟩
      rw [cut pattern (List.mem_append_left _ member), List.any_eq_true] at found
      obtain ⟨piece, among, found⟩ := found
      exact ⟨piece, among, pattern, member, found⟩
    · rintro ⟨piece, among, pattern, member, found⟩
      refine ⟨pattern, member, ?_⟩
      rw [cut pattern (List.mem_append_left _ member), List.any_eq_true]
      exact ⟨piece, among, found⟩
  have failure : mentionsFailure whole = pieces.any mentionsFailure := by
    rw [mentionsFailure, cut "failed" (by decide), cut "error" (by decide), Bool.eq_iff_iff]
    simp only [mentionsFailure, List.any_eq_true, Bool.or_eq_true, and_or_left, exists_or]
  simp only [permanentTexts, List.any_cons, List.any_append, permanent, failure,
    cut "validation" (by decide)]

/-- A blank behind the separator makes no difference. -/
theorem Separator.permanentTexts_blank (sep : Separator c) :
    permanentTexts ((a ++ c :: ' ' :: b) :: rest) = permanentTexts (a :: b :: rest) :=
  permanentTexts_cut [a, b] fun pattern member => by
    simp only [contains, Infix.append_cons_iff (sep pattern member), Bool.decide_or,
      Infix.cons_iff_of_head (blank_apart member), List.any_cons, List.any_nil, Bool.or_false]

/-- A piece without patterns makes no difference. -/
theorem permanentTexts_drop (absent : ∀ pattern ∈ verdictPatterns, contains a pattern = false) :
    permanentTexts (a :: rest) = permanentTexts rest :=
  permanentTexts_cut [] absent

/-- One permanent piece makes the whole permanent. -/
theorem permanentTexts_of_head (permanent : permanentText a = true) :
    permanentTexts (a :: rest) = true := by
  simp only [permanentText, permanentTexts, List.any_cons, List.any_nil, Bool.or_false,
    Bool.or_eq_true, Bool.and_eq_true] at permanent ⊢
  exact permanent.imp .inl fun both => ⟨.inl both.1, .inl both.2⟩

end Pieces

/-- `char::is_ascii`. -/
def isAscii (c : Char) : Bool := c.val < 128

/-- An ASCII text lowers character by character. -/
theorem CharTables.toLowercase_ascii (tables : CharTables) {text : String}
    (ascii : text.toList.all isAscii = true) :
    tables.toLowercase text = text.toList.map Char.toLower := by
  rw [toLowercase, ← List.flatMap_singleton' (text.toList.map Char.toLower), List.flatMap_map]
  exact List.flatMap_congr fun c member =>
    tables.toLower_ascii c (of_decide_eq_true (List.all_eq_true.mp ascii c member))

/-! ### The `Display` rendering -/

/-- A label that ends with a colon and a blank is a piece of its own. -/
theorem CharTables.permanentText_labelled (tables : CharTables) {label : String} {words : List Char}
    (text : String) (ascii : label.toList.all isAscii = true)
    (lowered : label.toList.map Char.toLower = words ++ [':', ' ']) :
    permanentText (tables.toLowercase (label ++ text)) =
      permanentTexts [words, tables.toLowercase text] := by
  have colon : Separator ':' := by decide
  rw [toLowercase_append, toLowercase_ascii tables ascii, lowered, List.append_assoc,
    permanentText]
  exact colon.permanentTexts_blank

/-- A quoted text and one behind the closing quote and a semicolon are pieces. -/
theorem CharTables.permanentText_quoted (tables : CharTables) {opening : String}
    {words : List Char} (service error : String) (ascii : opening.toList.all isAscii = true)
    (lowered : opening.toList.map Char.toLower = words ++ ['\'']) :
    permanentText (tables.toLowercase (opening ++ service ++ "'; " ++ error)) =
      permanentTexts [words, tables.toLowercase service, tables.toLowercase error] := by
  have quote : Separator '\'' := by decide
  have semicolon : Separator ';' := by decide
  have closing : tables.toLowercase "'; " = ['\'', ';', ' '] := by
    rw [tables.toLowercase_ascii (by decide)]
    decide
  have assembled : tables.toLowercase (opening ++ service ++ "'; " ++ error) =
      words ++ '\'' :: (tables.toLowercase service ++
        '\'' :: ';' :: ' ' :: tables.toLowercase error) := by
    simp only [toLowercase_append, toLowercase_ascii tables ascii, lowered, closing,
      List.append_assoc, List.cons_append, List.nil_append]
  rw [assembled]
  exact permanentTexts_cut [_, _, _] fun pattern member => by
    simp only [contains, Infix.append_cons_iff (quote pattern member), Bool.decide_or,
      Infix.cons_iff (semicolon pattern member), Infix.cons_iff_of_head (blank_apart member),
      List.any_cons, List.any_nil, Bool.or_false]

namespace BackfillError

/-- The words of the `Display` text that are not taken from the error, lower-cased. -/
def label : BackfillError → String
  | runtimeError _ => "runtime error"
  | dlqJobNotFound _ => "dlq job not found with id"
  | workerRuntime _ => "worker runtime error"
  | graphileWorker _ | graphileBuild _ | crontabParse _ | sqlxError _ | jsonError _
  | parseInt _ => ""

/-- The texts that the `Display` text takes from the error. -/
def texts : BackfillError → List String
  | dlqJobNotFound id => [toString id]
  | runtimeError message | workerRuntime message => [message]
  | graphileWorker error | graphileBuild error | crontabParse error | sqlxError error
  | jsonError error | parseInt error => [error.display]

/-- What the verdict on the `Display` text depends on. -/
theorem permanentText_display (tables : CharTables) (e : BackfillError) :
    permanentText (tables.toLowercase e.display) =
      permanentTexts (e.label.toList :: e.texts.map tables.toLowercase) := by
  have nowhere : ∀ pattern ∈ verdictPatterns, contains "".toList pattern = false := by decide
  cases e with
  | runtimeError message =>
      exact tables.permanentText_labelled message (by decide +kernel)
        (by rw [label]; decide +kernel)
  | dlqJobNotFound id =>
      exact tables.permanentText_labelled (toString id) (by decide +kernel)
        (by rw [label]; decide +kernel)
  | workerRuntime message =>
      exact tables.permanentText_labelled message (by decide +kernel)
        (by rw [label]; decide +kernel)
  | _ error => exact (permanentTexts_drop nowhere).symm

end BackfillError

namespace WorkerError

/-- The words of the `Display` text that are not taken from the error, lower-cased. -/
def label : WorkerError → String
  | invalidInput _ => "invalid input provided"
  | malformedData _ => "malformed data"
  | unauthorized _ => "unauthorized access"
  | forbidden _ => "forbidden operation"
  | resourceNotFound _ => "resource not found"
  | validationFailed _ => "validation failed"
  | connectionTimeout _ => "connection timeout"
  | networkError _ => "network error"
  | serviceUnavailable _ => "service unavailable"
  | rateLimitExceeded _ => "rate limit exceeded"
  | temporaryUnavailable _ => "resource temporarily unavailable"
  | externalServiceFailure _ _ => "external service failure: service="
  | jobFailed _ => "job failed"
  | backfill error => error.label

/-- The texts that the `Display` text takes from the error. -/
def texts : WorkerError → List String
  | externalServiceFailure service error => [service, error]
  | invalidInput message | malformedData message | unauthorized message | forbidden message
  | resourceNotFound message | validationFailed message | connectionTimeout message
  | networkError message | serviceUnavailable message | rateLimitExceeded message
  | temporaryUnavailable message | jobFailed message => [message]
  | backfill error => error.texts

/-- What the verdict on the `Display` text depends on. -/
theorem permanentText_display (tables : CharTables) (e : WorkerError) :
    permanentText (tables.toLowercase e.display) =
      permanentTexts (e.label.toList :: e.texts.map tables.toLowercase) := by
  cases e with
  | externalServiceFailure service error =>
      exact tables.permanentText_quoted service error (by decide +kernel)
        (by rw [label]; decide +kernel)
  | backfill error => exact error.permanentText_display tables
  | _ message =>
      exact tables.permanentText_labelled message (by decide +kernel)
        (by rw [label]; decide +kernel)

/-- Nothing in the error reads as permanent: it is not the missing DLQ row, whose label says
"not found", no text in it names a permanent failure, and a text that speaks of a validation
is not accompanied by "failed" or "error", be it in the label or in a text. -/
structure ReadsRetryable (tables : CharTables) (e : WorkerError) : Prop where
  present : ∀ id, e ≠ backfill (.dlqJobNotFound id)
  clean : ∀ text ∈ e.texts, mentionsPermanent (tables.toLowercase text) = false
  unfailed : (∃ text ∈ e.texts, contains (tables.toLowercase text) "validation" = true) →
    mentionsFailure e.label.toList = false ∧
      ∀ text ∈ e.texts, mentionsFailure (tables.toLowercase text) = false

/-- Of the labels of the retryable variants one is permanent and none is about validation. -/
theorem label_of_retryable {e : WorkerError} (retryable : e.isRetryable = true) :
    contains e.label.toList "validation" = false ∧
      (mentionsPermanent e.label.toList = false ↔ ∀ id, e ≠ backfill (.dlqJobNotFound id)) := by
  cases e with
  | invalidInput | malformedData | unauthorized | forbidden | resourceNotFound
  | validationFailed => exact absurd retryable Bool.false_ne_true
  | backfill error =>
      cases error with
      | dlqJobNotFound id =>
          rw [label, BackfillError.label]
          exact ⟨by decide +kernel, iff_of_false (by decide +kernel) fun other => other id rfl⟩
      | _ =>
          rw [label, BackfillError.label]
          exact ⟨by decide +kernel, iff_of_true (by decide +kernel) nofun⟩
  | _ =>
      rw [label]
      exact ⟨by decide +kernel, iff_of_true (by decide +kernel) nofun⟩

/-- The text of a retryable error is not permanent exactly when nothing in it reads so. -/
theorem readsRetryable_iff {tables : CharTables} {e : WorkerError}
    (retryable : e.isRetryable = true) :
    permanentText (tables.toLowercase e.display) = false ↔ e.ReadsRetryable tables := by
  obtain ⟨unvalidated, missing⟩ := label_of_retryable retryable
  rw [permanentText_display, permanentTexts]
  simp only [List.any_cons, List.any_map, unvalidated, Bool.false_or, Bool.or_eq_false_iff,
    Bool.and_eq_false_iff, List.any_eq_false, Function.comp_apply, Bool.not_eq_true]
  constructor
  · rintro ⟨⟨labelled, clean⟩, validation⟩
    refine ⟨missing.mp labelled, clean, ?_⟩
    rintro ⟨text, member, found⟩
    rcases validation with nowhere | unfailed
    · rw [nowhere text member] at found
      exact absurd found Bool.false_ne_true
    · exact unfailed
  · intro reads
    refine ⟨⟨missing.mpr reads.present, reads.clean⟩, ?_⟩
    by_cases validation : ∃ text ∈ e.texts, contains (tables.toLowercase text) "validation" = true
    · exact .inr (reads.unfailed validation)
    · exact .inl (by simpa using validation)

/-- The hook leaves a failed attempt alone exactly when the text it is told of does not read as
permanent. -/
theorem permanentFailureHook_idle_iff (tables : CharTables) (ctx : JobFailContext) :
    (∀ session : Session, session.run (Client.permanentFailureHook tables ctx) = (.ok 0, session)) ↔
      permanentText (tables.toLowercase ctx.error) = false := by
  have verdict := classifyFromMessage_isRetryable tables ctx.error
  cases reads : permanentText (tables.toLowercase ctx.error) with
  | false =>
      refine iff_of_true (fun session => ?_) rfl
      rw [Client.permanentFailureHook, if_pos (by rw [verdict, reads]; rfl)]
      rfl
  | true =>
      refine iff_of_false (fun idle => ?_) (by decide)
      -- the statement it sends takes a tick of the session
      have ticked := idle ⟨.fresh, fun n => ⟨n, fun _ => none⟩⟩
      rw [Client.permanentFailureHook, if_neg (by rw [verdict, reads]; decide),
        Session.run_call_ignored] at ticked
      have time := congrArg (fun left => (left.2.upcoming 0).now) ticked
      exact absurd time (by decide : (1 : Int) ≠ 0)

/-- A retryable error stays retryable through its text exactly when nothing in it reads as
permanent; and the hook, which is told whatever the job queue reports of the error, leaves its job
alone exactly when that report does not read so either. -/
theorem classifyFromMessage_display_isRetryable_iff (tables : CharTables)
    (report : WorkerError → String) {e : WorkerError} (retryable : e.isRetryable = true)
    (job : Job) :
    ((classifyFromMessage tables e.display).isRetryable = true ∧
        ∀ session : Session,
          session.run (Client.permanentFailureHook tables ⟨job, report e⟩) = (.ok 0, session)) ↔
      e.ReadsRetryable tables ∧ permanentText (tables.toLowercase (report e)) = false := by
  rw [← readsRetryable_iff retryable, classifyFromMessage_isRetryable, Bool.not_eq_true',
    permanentFailureHook_idle_iff]

/-- A report that wraps the `Debug` text of the error. -/
def taskError (tables : CharTables) (e : WorkerError) : String :=
  "TaskError(" ++ tables.debugStr (e.debug tables) ++ ")"

/-- A timeout that names its host and nothing else stays retryable. -/
theorem connectionTimeout_stays_retryable :
    let e := connectionTimeout "db.internal:5432"
    (classifyFromMessage .ascii e.display).isRetryable = true ∧
      ∀ (job : Job) (session : Session), session.run
        (Client.permanentFailureHook .ascii ⟨job, e.taskError .ascii⟩) = (.ok 0, session) :=
  ⟨by decide +kernel, fun job => ((classifyFromMessage_display_isRetryable_iff .ascii
    (taskError .ascii) (e := connectionTimeout "db.internal:5432") rfl job).mpr
      ⟨⟨nofun, by decide, by decide⟩, by decide +kernel⟩).2⟩

/-- The word "error" of the wrapper is enough for a message about a validation. -/
example : permanentText (CharTables.ascii.toLowercase
    ((serviceUnavailable "validation service restarting").taskError .ascii)) = true := by
  decide +kernel

/-- A timeout whose message says that a host was not found is classified as permanent. -/
theorem connectionTimeout_turns_permanent :
    let e := connectionTimeout "upstream host not found"
    e.isRetryable = true ∧ (classifyFromMessage .ascii e.display).isRetryable = false := by
  decide +kernel

/-! ### The `Debug` rendering -/

/-- A derived `Debug` text is the name of the variant and the escaped message. -/
theorem permanentText_debugMessage (tables : CharTables) {variant : String} (message : String)
    (ascii : variant.toList.all isAscii = true) :
    permanentText (tables.toLowercase (debugMessage tables variant message)) =
      permanentTexts [variant.toList.map Char.toLower ++ " \x7b message: ".toList,
        tables.toLowercase (tables.escaped message)] := by
  have quote : Separator '"' := by decide
  have opening : tables.toLowercase " \x7b message: " = " \x7b message: ".toList := by
    rw [tables.toLowercase_ascii (by decide)]
    decide
  have bare : tables.toLowercase "\"" = ['"'] := by
    rw [tables.toLowercase_ascii (by decide)]
    decide
  have closing : tables.toLowercase " \x7d" = " \x7d".toList := by
    rw [tables.toLowercase_ascii (by decide)]
    decide
  have nowhere : ∀ pattern ∈ verdictPatterns, contains " \x7d".toList pattern = false := by decide
  have assembled : tables.toLowercase (debugMessage tables variant message) =
      (variant.toList.map Char.toLower ++ " \x7b message: ".toList) ++
        '"' :: (tables.toLowercase (tables.escaped message) ++ '"' :: " \x7d".toList) := by
    simp only [debugMessage, CharTables.debugStr, CharTables.toLowercase_append,
      tables.toLowercase_ascii ascii, opening, bare, closing, List.append_assoc, List.cons_append,
      List.nil_append]
  rw [assembled]
  refine permanentTexts_cut [_, _] fun pattern member => ?_
  have absent := nowhere pattern member
  simp only [contains] at absent
  simp only [contains, Infix.append_cons_iff (quote pattern member), Bool.decide_or, absent,
    List.any_cons, List.any_nil, Bool.or_false]

/-- The two texts that a type with `Display` and `Debug` can be flattened to. -/
inductive Rendering
  | display
  | debug
deriving DecidableEq

/-- The text of the error in a rendering. -/
def render (tables : CharTables) (e : WorkerError) : Rendering → String
  | .display => e.display
  | .debug => e.debug tables

/-- The non-retryable variants whose name runs the words of their pattern together. -/
def runsTogether : WorkerError → Bool
  | invalidInput _ | resourceNotFound _ => true
  | _ => false

/-- The label of every non-retryable variant is permanent. -/
theorem permanentText_label {e : WorkerError} (permanent : e.isRetryable = false) :
    permanentText e.label.toList = true := by
  cases e with
  | invalidInput | malformedData | unauthorized | forbidden | resourceNotFound
  | validationFailed =>
      rw [label]
      decide +kernel
  | _ => exact absurd permanent.symm Bool.false_ne_true

/-- The `Debug` text of a non-retryable error is permanent unless the name of the variant
runs the pattern together and the message does not make up for it. -/
theorem permanentText_debug (tables : CharTables) {e : WorkerError}
    (permanent : e.isRetryable = false) :
    permanentText (tables.toLowercase (e.debug tables)) =
      (!e.runsTogether ||
        e.texts.any fun text => permanentText (tables.toLowercase (tables.escaped text))) := by
  cases e with
  | invalidInput message | resourceNotFound message =>
      refine (permanentText_debugMessage tables message (by decide +kernel)).trans ?_
      refine (permanentTexts_drop (by decide +kernel)).trans ?_
      simp only [permanentText, runsTogether, texts, List.any_cons, List.any_nil, Bool.not_true,
        Bool.false_or, Bool.or_false]
  | malformedData message | unauthorized message | forbidden message | validationFailed message =>
      refine (permanentText_debugMessage tables message (by decide +kernel)).trans ?_
      exact permanentTexts_of_head (by decide +kernel)
  | _ => exact absurd permanent.symm Bool.false_ne_true

/-- Flattened by either rendering, a non-retryable error stays non-retryable exactly when the
rendering is `Display`, or the name of the variant shows its pattern, or the escaped message
does. -/
theorem classifyFromMessage_render_isRetryable_iff (tables : CharTables) {e : WorkerError}
    (permanent : e.isRetryable = false) (rendering : Rendering) :
    (classifyFromMessage tables (e.render tables rendering)).isRetryable = false ↔
      rendering = .display ∨ e.runsTogether = false ∨
        ∃ text ∈ e.texts, permanentText (tables.toLowercase (tables.escaped text)) = true := by
  rw [classifyFromMessage_isRetryable, Bool.not_eq_false']
  cases rendering with
  | display =>
      rw [render, permanentText_display, permanentTexts_of_head (permanentText_label permanent)]
      exact iff_of_true rfl (.inl rfl)
  | debug =>
      rw [render, permanentText_debug tables permanent, Bool.or_eq_true, Bool.not_eq_true',
        List.any_eq_true]
      exact (or_iff_right Rendering.noConfusion).symm

/-- The name of a variant of one word is its pattern, so its `Debug` text is permanent. -/
theorem forbidden_debug_stays_permanent :
    (classifyFromMessage .ascii ((forbidden "no").render .ascii .debug)).isRetryable = false :=
  (classifyFromMessage_render_isRetryable_iff .ascii (e := forbidden "no") rfl .debug).mpr
    (.inr (.inl rfl))

/-- The `Debug` text of an invalid input is classified as retryable. -/
theorem invalidInput_debug_turns_retryable :
    let e := invalidInput "email address has no domain"
    e.isRetryable = false ∧
      (classifyFromMessage .ascii (e.render .ascii .debug)).isRetryable = true := by
  decide +kernel

end WorkerError

end Backfill
