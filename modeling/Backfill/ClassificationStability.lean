import Backfill.Classification

/-!
# What wrapping does to the classification of a message

Context around a message only adds occurrences of patterns, and a permanent pattern decides
before any retryable one is looked for. Which variant is chosen depends on the lower-cased
message alone.
-/

namespace Backfill

/-- `contains` looks for the pattern anywhere. -/
theorem contains_of_infix {inner outer : List Char} {pattern : String} (inside : inner <:+: outer)
    (found : contains inner pattern = true) : contains outer pattern = true :=
  decide_eq_true ((of_decide_eq_true found).trans inside)

/-- What makes a piece of a text permanent makes the text permanent. -/
theorem permanentText_of_infix {inner outer : List Char} (inside : inner <:+: outer)
    (permanent : permanentText inner = true) : permanentText outer = true := by
  have pattern : ∀ {p : String}, contains inner p = true → contains outer p = true :=
    contains_of_infix inside
  simp only [permanentText, permanentTexts, mentionsPermanent, mentionsFailure, List.any_cons,
    List.any_nil, Bool.or_false, Bool.or_eq_true, Bool.and_eq_true, List.any_eq_true]
    at permanent ⊢
  rcases permanent with ⟨p, among, found⟩ | ⟨validation, failed | error⟩
  · exact .inl ⟨p, among, pattern found⟩
  · exact .inr ⟨pattern validation, .inl (pattern failed)⟩
  · exact .inr ⟨pattern validation, .inr (pattern error)⟩

/-- `str::eq_ignore_ascii_case`: the same characters up to the case of ASCII letters. -/
def EqIgnoreAsciiCase (a b : String) : Prop :=
  a.toList.map Char.toLower = b.toList.map Char.toLower

instance (a b : String) : Decidable (EqIgnoreAsciiCase a b) :=
  inferInstanceAs (Decidable (_ = _))

namespace CharTables

variable (tables : CharTables)

/-- Outside of ASCII `Char.toLower` changes nothing. -/
theorem toLower_of_not_ascii {c : Char} (high : 128 ≤ c.val) : c.toLower = c := by
  unfold Char.toLower
  split
  next upper =>
    have below : c.val ≤ 90 := upper.2
    rw [UInt32.le_iff_toNat_le] at high below
    exact absurd (high.trans below) (by decide)
  next => rfl

theorem toLower_ascii_iff (c : Char) : c.toLower.val < 128 ↔ c.val < 128 := by
  unfold Char.toLower
  split
  next upper =>
    have below : c.val ≤ 90 := upper.2
    show c.val + 32 < 128 ↔ c.val < 128
    rw [UInt32.le_iff_toNat_le] at below
    rw [UInt32.lt_iff_toNat_lt, UInt32.lt_iff_toNat_lt, UInt32.toNat_add]
    simp only [UInt32.reduceToNat] at below ⊢
    omega
  next => rfl

/-- The tables see no difference between the two cases of an ASCII letter. -/
theorem toLower_congr {c d : Char} (same : c.toLower = d.toLower) :
    tables.toLower c = tables.toLower d := by
  by_cases ascii : c.val < 128
  · have ascii' : d.val < 128 := by rwa [← toLower_ascii_iff, ← same, toLower_ascii_iff]
    rw [tables.toLower_ascii c ascii, tables.toLower_ascii d ascii', same]
  · have high' : ¬ d.val < 128 := by rwa [← toLower_ascii_iff, ← same, toLower_ascii_iff]
    rw [toLower_of_not_ascii (UInt32.not_lt.mp ascii),
      toLower_of_not_ascii (UInt32.not_lt.mp high')] at same
    rw [same]

/-- Neither does `to_lowercase`. -/
theorem toLowercase_congr {a b : String} (same : EqIgnoreAsciiCase a b) :
    tables.toLowercase a = tables.toLowercase b := by
  unfold toLowercase
  unfold EqIgnoreAsciiCase at same
  generalize a.toList = cs at same ⊢
  generalize b.toList = ds at same ⊢
  induction cs generalizing ds with
  | nil =>
      obtain rfl := List.map_eq_nil_iff.mp same.symm
      rfl
  | cons c cs ih =>
      obtain ⟨d, rest, rfl, head, tail⟩ := List.map_eq_cons_iff.mp same.symm
      rw [List.flatMap_cons, List.flatMap_cons, tables.toLower_congr head.symm, ih rest tail.symm]

end CharTables

namespace WorkerError

/-- `std::mem::discriminant`: which variant an error is. -/
def discriminant (e : WorkerError) : Nat := e.ctorIdx

/-- `WorkerError::from_any_error` (`errors.rs:103`); of the error it only asks `to_string`. -/
def fromAnyError {E : Type} (tables : CharTables) (toString : E → String) (error : E) :
    WorkerError :=
  classifyFromMessage tables (toString error)

/-- A layer of context: what it puts before and behind the text of what it wraps. -/
structure Layer where
  before : String
  after : String

namespace Layer

/-- The text of an error in one layer of context. -/
def wrap (layer : Layer) (text : String) : String := layer.before ++ text ++ layer.after

/-- A text in any number of layers, the outermost first. -/
def wrapAll (layers : List Layer) (text : String) : String := layers.foldr wrap text

/-- An error that is classified again each time a layer is put around it. -/
def reclassify (tables : CharTables) (layers : List Layer) (e : WorkerError) : WorkerError :=
  layers.foldr (fun layer inner => fromAnyError tables (fun e => layer.wrap e.display) inner) e

end Layer

section Wrapping

variable {tables : CharTables} {m : String} {e : WorkerError}

/-- One layer of context keeps a permanent message permanent. -/
theorem isRetryable_wrap (permanent : (classifyFromMessage tables m).isRetryable = false)
    (layer : Layer) : (classifyFromMessage tables (layer.wrap m)).isRetryable = false := by
  rw [classifyFromMessage_isRetryable, Bool.not_eq_false'] at permanent ⊢
  refine permanentText_of_infix ?_ permanent
  rw [Layer.wrap, CharTables.toLowercase_append, CharTables.toLowercase_append]
  exact List.infix_append ..

/-- So does any number of them. -/
theorem isRetryable_wrapAll (permanent : (classifyFromMessage tables m).isRetryable = false)
    (layers : List Layer) :
    (classifyFromMessage tables (Layer.wrapAll layers m)).isRetryable = false := by
  induction layers with
  | nil => exact permanent
  | cons layer inner ih => exact isRetryable_wrap ih layer

/-- The label of a permanent variant is permanent, so the text of one is, whatever it says. -/
theorem isRetryable_display (permanent : e.isRetryable = false) :
    (classifyFromMessage tables e.display).isRetryable = false :=
  (classifyFromMessage_render_isRetryable_iff tables permanent .display).mpr (.inl rfl)

/-- The classification in between makes no difference. -/
theorem isRetryable_reclassify (permanent : e.isRetryable = false) (layers : List Layer) :
    (Layer.reclassify tables layers e).isRetryable = false := by
  induction layers with
  | nil => exact permanent
  | cons layer inner ih => exact isRetryable_wrap (isRetryable_display ih) layer

/-- The tests read the lower-cased message only. -/
theorem discriminant_congr {m' : String} (same : tables.toLowercase m = tables.toLowercase m') :
    (classifyFromMessage tables m).discriminant = (classifyFromMessage tables m').discriminant := by
  simp only [classifyFromMessage, apply_ite discriminant, same]
  rfl

end Wrapping

/-- What is promised of a message however it is wrapped or re-cased. -/
structure Stable (tables : CharTables) (m : String) : Prop where
  context : (classifyFromMessage tables m).isRetryable = false →
    ∀ p s : String, (classifyFromMessage tables (p ++ m ++ s)).isRetryable = false
  layers : (classifyFromMessage tables m).isRetryable = false →
    ∀ layers, (classifyFromMessage tables (Layer.wrapAll layers m)).isRetryable = false
  reclassified : (classifyFromMessage tables m).isRetryable = false →
    ∀ layers, (Layer.reclassify tables layers (classifyFromMessage tables m)).isRetryable = false
  recased : ∀ m', EqIgnoreAsciiCase m m' →
    (classifyFromMessage tables m').discriminant = (classifyFromMessage tables m).discriminant ∧
      (classifyFromMessage tables m').isRetryable = (classifyFromMessage tables m).isRetryable

/-- No context turns a permanent message into a retryable one, and the case of its ASCII letters
does not matter. -/
theorem classifyFromMessage_stable (tables : CharTables) (m : String) : Stable tables m where
  context permanent p s := isRetryable_wrap permanent ⟨p, s⟩
  layers := isRetryable_wrapAll
  reclassified := isRetryable_reclassify
  recased m' same := by
    have lower := tables.toLowercase_congr same
    refine ⟨(discriminant_congr lower).symm, ?_⟩
    rw [classifyFromMessage_isRetryable, classifyFromMessage_isRetryable, lower]

/-- The permanent patterns come first, whatever the context adds. -/
example :
    (classifyFromMessage .ascii "Connection timeout: VALIDATION Failed").isRetryable = false := by
  decide +kernel

end WorkerError

end Backfill
