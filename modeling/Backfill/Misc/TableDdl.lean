import Mathlib.Algebra.Group.Int.Defs
import Mathlib.Algebra.Group.Nat.Defs
import Backfill.Misc.Infix

/-!
# Table definitions

What a `CREATE TABLE` and its `CREATE INDEX`es say of a table, and what becomes of the
values an insertion binds to its columns: each is cast to the type of its column, or the
insertion is refused with the database's message. The type parameters are left to the
user: which JSON values the `jsonb` type can hold is a predicate on them, and a timestamp
is whatever a clock reads.
-/

/-- The column types in use; `varchar` counts characters. -/
inductive ColumnType
  | bigint
  | integer
  | varchar (limit : Nat)
  | text
  | jsonb
  | timestamptz
deriving DecidableEq

/-- The name of a type in a message. -/
def ColumnType.label : ColumnType → String
  | bigint => "bigint"
  | integer => "integer"
  | varchar limit => "character varying(" ++ toString limit ++ ")"
  | text => "text"
  | jsonb => "jsonb"
  | timestamptz => "timestamp with time zone"

/-- One column, with the text of its `DEFAULT`. -/
structure Column where
  name : String
  type : ColumnType
  notNull : Bool
  default : Option String
deriving DecidableEq

/-- One column of an index. -/
structure IndexColumn where
  name : String
  descending : Bool
deriving DecidableEq

/-- The condition of a partial index, `WHERE column IS NOT NULL`. -/
inductive IndexPredicate
  | isNotNull (column : String)
deriving DecidableEq

/-- A `CREATE INDEX`. -/
structure Index where
  name : String
  columns : List IndexColumn
  unique : Bool
  predicate : Option IndexPredicate
deriving DecidableEq

/-- A table with its indexes. -/
structure TableDdl where
  columns : List Column
  primaryKey : String
  indexes : List Index
deriving DecidableEq

/-- No `NUL`, which the database's texts cannot hold. -/
def NulFree (value : String) : Prop := Char.ofNat 0 ∉ value.toList

/-- What a `varchar(limit)` takes: beyond the limit only blanks, which it drops. -/
def FitsVarchar (limit : Nat) (value : String) : Prop := ∀ c ∈ value.toList.drop limit, c = ' '

/-- What a `varchar(limit)` stores of a value that it takes: its first `limit` characters. -/
def varchar (limit : Nat) (value : String) : String := String.ofList (value.toList.take limit)

/-- What has been cut to length stays as it is. -/
@[simp] theorem varchar_varchar (limit : Nat) (value : String) :
    varchar limit (varchar limit value) = varchar limit value := by
  simp [varchar, List.take_take]

@[simp] theorem varchar_empty (limit : Nat) : varchar limit "" = "" := by simp [varchar]

/-- A value within the limit is stored whole. -/
theorem varchar_eq_self_iff {limit : Nat} {value : String} :
    varchar limit value = value ↔ value.toList.length ≤ limit := by
  rw [← List.take_eq_self_iff, ← String.toList_inj, varchar, String.toList_ofList]

/-- Of a value that goes on beyond the limit the first characters are stored. -/
theorem varchar_append {limit : Nat} {value : String} (full : value.toList.length = limit)
    (rest : String) : varchar limit (value ++ rest) = value := by
  rw [varchar, String.toList_append, List.take_left' full, String.ofList_toList]

instance (value : String) : Decidable (NulFree value) :=
  inferInstanceAs (Decidable (_ ∉ _))

instance (limit : Nat) (value : String) : Decidable (FitsVarchar limit value) :=
  decidable_of_iff ((value.toList.drop limit).all (· == ' ') = true) (by simp [FitsVarchar])

/-- A number has no `NUL` in it. -/
theorem nulFree_toString (n : Int) : NulFree (toString n) :=
  not_mem_toString (by decide) (by decide) n

theorem NulFree.append {s t : String} (first : NulFree s) (second : NulFree t) :
    NulFree (s ++ t) := by
  rw [NulFree, String.toList_append, List.mem_append]
  exact not_or.mpr ⟨first, second⟩

namespace Column

variable {J T : Type}

/-- A value of another type. -/
def mismatch (column : Column) (expression : String) : String :=
  "column \"" ++ column.name ++ "\" is of type " ++ column.type.label
    ++ " but expression is of type " ++ expression

/-- `NULL` where none may be. -/
def nullViolation (column : Column) : String :=
  "null value in column \"" ++ column.name ++ "\" violates not-null constraint"

def castText (column : Column) (value : String) : Except String String :=
  if NulFree value then
    match column.type with
    | .varchar limit =>
        if FitsVarchar limit value then .ok (varchar limit value)
        else .error ("value too long for type " ++ column.type.label)
    | .text => .ok value
    | _ => .error (column.mismatch "text")
  else
    .error "invalid byte sequence for encoding \"UTF8\": 0x00"

def castInteger (column : Column) (value : Int) : Except String Int :=
  match column.type with
  | .bigint =>
      if -2 ^ 63 ≤ value ∧ value < 2 ^ 63 then .ok value else .error "bigint out of range"
  | .integer =>
      if -2 ^ 31 ≤ value ∧ value < 2 ^ 31 then .ok value else .error "integer out of range"
  | _ => .error (column.mismatch "integer")

def castJson (jsonb : J → Bool) (column : Column) (value : J) : Except String J :=
  match column.type with
  | .jsonb => if jsonb value then .ok value else .error "unsupported Unicode escape sequence"
  | _ => .error (column.mismatch "jsonb")

def castTimestamp (column : Column) (value : T) : Except String T :=
  match column.type with
  | .timestamptz => .ok value
  | _ => .error (column.mismatch "timestamp with time zone")

/-- What a column stores of a text that it takes. -/
def storedText (column : Column) (value : String) : String :=
  match column.type with
  | .varchar limit => varchar limit value
  | _ => value

end Column

namespace TableDdl

variable {α : Type}

/-- The column of that name. -/
def column? (ddl : TableDdl) (name : String) : Option Column :=
  ddl.columns.find? fun column => column.name = name

/-- A value bound to the column of that name. -/
def assign (ddl : TableDdl) (name : String) (cast : Column → α → Except String α) (value : α) :
    Except String α :=
  match ddl.column? name with
  | some column => cast column value
  | none => .error ("column \"" ++ name ++ "\" does not exist")

/-- A value that may be `NULL`. -/
def assignNullable (ddl : TableDdl) (name : String) (cast : Column → α → Except String α)
    (value : Option α) : Except String (Option α) :=
  match ddl.column? name, value with
  | some column, some value => (cast column value).map some
  | some column, none => if column.notNull then .error column.nullViolation else .ok none
  | none, _ => .error ("column \"" ++ name ++ "\" does not exist")

/-- The columns an insertion does not list take their defaults. -/
def fillDefaults (ddl : TableDdl) (listed : List String) : Except String Unit :=
  match ddl.columns.find? fun column =>
      column.name ∉ listed ∧ column.notNull = true ∧ column.default = none with
  | some column => .error column.nullViolation
  | none => .ok ()

/-- `ON CONFLICT (columns) WHERE predicate` finds a unique index to watch: it is on exactly
these columns, and its own condition, if it has one, is the one given. -/
def infers (ddl : TableDdl) (columns : List String) (predicate : Option IndexPredicate) : Bool :=
  columns = [ddl.primaryKey] || ddl.indexes.any fun index =>
    index.unique && index.columns.map IndexColumn.name = columns &&
      (index.predicate = none || index.predicate = predicate)

end TableDdl

namespace Except

variable {ε α β : Type} {x : Except ε α}

theorem exists_eq_ok_iff : (∃ value, x = .ok value) ↔ x.isOk = true := by
  cases x <;> simp [Except.isOk, Except.toBool]

/-- A sequence of fallible steps succeeds when each of them does. -/
theorem isOk_bind_iff {f : α → Except ε β} :
    (x >>= f).isOk = true ↔ ∃ value, x = .ok value ∧ (f value).isOk = true := by
  cases x with
  | error e => simp [bind, Except.bind, Except.isOk, Except.toBool]
  | ok value => simp [bind, Except.bind]

/-- A sequence that succeeds has succeeded at each step. -/
theorem bind_eq_ok_iff {f : α → Except ε β} {result : β} :
    x >>= f = .ok result ↔ ∃ value, x = .ok value ∧ f value = .ok result := by
  cases x with
  | error e => simp [bind, Except.bind]
  | ok value => simp [bind, Except.bind]

/-- Every error the step may end with satisfies `Q`. -/
def FailsWith (Q : ε → Prop) (x : Except ε α) : Prop := ∀ e, x = .error e → Q e

variable {Q : ε → Prop}

theorem failsWith_ok (value : α) : FailsWith Q (.ok value) := fun _ same => nomatch same

theorem failsWith_error {e : ε} (holds : Q e) : FailsWith Q (.error e : Except ε α) := by
  rintro e' ⟨⟩
  exact holds

/-- What holds of the errors of each step holds of those of a sequence. -/
theorem FailsWith.bind {f : α → Except ε β} (first : FailsWith Q x)
    (second : ∀ value, FailsWith Q (f value)) : FailsWith Q (x >>= f) := by
  cases x with
  | error e =>
      rintro e' ⟨⟩
      exact first e rfl
  | ok value => exact second value

theorem FailsWith.map {f : α → β} (first : FailsWith Q x) : FailsWith Q (x.map f) := by
  cases x with
  | error e =>
      rintro e' ⟨⟩
      exact first e rfl
  | ok value => exact failsWith_ok _

@[simp] theorem isOk_map (f : α → β) : (x.map f).isOk = x.isOk := by
  cases x <;> rfl

@[simp] theorem isOk_pure (value : α) : (pure value : Except ε α).isOk = true := rfl

@[simp] theorem isOk_ok (value : α) : (.ok value : Except ε α).isOk = true := rfl

@[simp] theorem isOk_error (e : ε) : (.error e : Except ε α).isOk = false := rfl

end Except

/-! When a column takes a value. -/

namespace Column

variable {J T : Type} {name : String} {notNull : Bool} {default : Option String}

@[simp] theorem isOk_castText_varchar {limit : Nat} {value : String} :
    (castText ⟨name, .varchar limit, notNull, default⟩ value).isOk = true ↔
      NulFree value ∧ FitsVarchar limit value := by
  by_cases clean : NulFree value <;> by_cases fits : FitsVarchar limit value <;>
    simp [castText, clean, fits]

@[simp] theorem isOk_castText_text {value : String} :
    (castText ⟨name, .text, notNull, default⟩ value).isOk = true ↔ NulFree value := by
  by_cases clean : NulFree value <;> simp [castText, clean]

@[simp] theorem isOk_castInteger_bigint {value : Int} :
    (castInteger ⟨name, .bigint, notNull, default⟩ value).isOk = true ↔
      -2 ^ 63 ≤ value ∧ value < 2 ^ 63 := by
  by_cases range : -2 ^ 63 ≤ value ∧ value < 2 ^ 63 <;> simp only [castInteger, range] <;> simp

@[simp] theorem isOk_castInteger_integer {value : Int} :
    (castInteger ⟨name, .integer, notNull, default⟩ value).isOk = true ↔
      -2 ^ 31 ≤ value ∧ value < 2 ^ 31 := by
  by_cases range : -2 ^ 31 ≤ value ∧ value < 2 ^ 31 <;> simp only [castInteger, range] <;> simp

@[simp] theorem isOk_castJson {jsonb : J → Bool} {value : J} :
    (castJson jsonb ⟨name, .jsonb, notNull, default⟩ value).isOk = true ↔ jsonb value = true := by
  cases holds : jsonb value <;> simp [castJson, holds]

@[simp] theorem isOk_castTimestamp {value : T} :
    (castTimestamp ⟨name, .timestamptz, notNull, default⟩ value).isOk = true := rfl

section Kept

variable {column : Column}

/-- A text that is taken is stored as its column cuts it. -/
theorem castText_ok {value kept : String} (cast : column.castText value = .ok kept) :
    kept = column.storedText value := by
  by_cases clean : NulFree value
  · simp only [castText, storedText, clean, if_true] at cast ⊢
    cases type : column.type with
    | varchar limit =>
        simp only [type] at cast
        split at cast
        · exact (Except.ok.inj cast).symm
        · cases cast
    | text =>
        simp only [type] at cast
        exact (Except.ok.inj cast).symm
    | _ =>
        simp only [type] at cast
        cases cast
  · simp only [castText, clean, if_false] at cast
    cases cast

/-- Values of the other types are stored as they are bound. -/
theorem castInteger_ok {value kept : Int} (cast : column.castInteger value = .ok kept) :
    kept = value := by
  unfold castInteger at cast
  repeat' split at cast
  all_goals first
    | exact (Except.ok.inj cast).symm
    | cases cast

theorem castJson_ok {jsonb : J → Bool} {value kept : J}
    (cast : column.castJson jsonb value = .ok kept) : kept = value := by
  unfold castJson at cast
  repeat' split at cast
  all_goals first
    | exact (Except.ok.inj cast).symm
    | cases cast

theorem castTimestamp_ok {value kept : T} (cast : column.castTimestamp value = .ok kept) :
    kept = value := by
  unfold castTimestamp at cast
  split at cast
  · exact (Except.ok.inj cast).symm
  · cases cast

end Kept

end Column

/-- A column that may be `NULL` takes no value as well as a value of its type. -/
theorem TableDdl.isOk_assignNullable {α : Type} {ddl : TableDdl} {column : Column} {name : String}
    {cast : Column → α → Except String α} {value : Option α}
    (found : ddl.column? name = some column) (nullable : column.notNull = false) :
    (ddl.assignNullable name cast value).isOk = true ↔
      ∀ bound ∈ value, (cast column bound).isOk = true := by
  cases value with
  | none => simp [assignNullable, found, nullable]
  | some bound => simp [assignNullable, found]

namespace TableDdl

variable {α : Type} {ddl : TableDdl} {name : String} {cast : Column → α → Except String α}
  {column : Column} (store : Column → α → α)

/-- A value that is bound to a column is stored as the cast of the column stores it. -/
theorem assign_ok (casts : ∀ {column value kept}, cast column value = .ok kept →
    kept = store column value) (found : ddl.column? name = some column) {value kept : α}
    (assigned : ddl.assign name cast value = .ok kept) : kept = store column value := by
  simp only [assign, found] at assigned
  exact casts assigned

theorem assignNullable_ok (casts : ∀ {column value kept}, cast column value = .ok kept →
    kept = store column value) (found : ddl.column? name = some column) {value kept : Option α}
    (assigned : ddl.assignNullable name cast value = .ok kept) :
    kept = value.map (store column) := by
  cases value with
  | none =>
      simp only [assignNullable, found] at assigned
      split at assigned
      · cases assigned
      · exact (Except.ok.inj assigned).symm
  | some bound =>
      simp only [assignNullable, found] at assigned
      cases stored : cast column bound with
      | error message =>
          rw [stored] at assigned
          cases assigned
      | ok value =>
          rw [stored] at assigned
          rw [Option.map_some, ← casts stored]
          exact (Except.ok.inj assigned).symm

end TableDdl

/-! What the messages about a value or its column have in common. -/

/-- The message does not begin with a `t`, as those about the statement do ("there is ..."). -/
def ColumnMessage (message : String) : Prop := ∃ c, message.toList.head? = some c ∧ c ≠ 't'

theorem ColumnMessage.append {s : String} (begins : ColumnMessage s) (t : String) :
    ColumnMessage (s ++ t) := by
  obtain ⟨c, first, other⟩ := begins
  exact ⟨c, by simp [String.toList_append, first], other⟩

namespace Column

open Except

variable {J T : Type} {column : Column}

theorem columnMessage_mismatch (expression : String) :
    ColumnMessage (column.mismatch expression) := by
  refine .append (.append (.append (.append (.append ?_ _) _) _) _) _
  exact ⟨'c', by decide, by decide⟩

theorem columnMessage_nullViolation : ColumnMessage column.nullViolation := by
  refine .append (.append ?_ _) _
  exact ⟨'n', by decide, by decide⟩

theorem failsWith_castText (value : String) :
    FailsWith ColumnMessage (column.castText value) := by
  unfold castText
  split
  · split
    · split
      · exact failsWith_ok _
      · exact failsWith_error (.append ⟨'v', by decide, by decide⟩ _)
    · exact failsWith_ok _
    · exact failsWith_error (columnMessage_mismatch _)
  · exact failsWith_error ⟨'i', by decide, by decide⟩

theorem failsWith_castInteger (value : Int) :
    FailsWith ColumnMessage (column.castInteger value) := by
  unfold castInteger
  split
  · split
    · exact failsWith_ok _
    · exact failsWith_error ⟨'b', by decide, by decide⟩
  · split
    · exact failsWith_ok _
    · exact failsWith_error ⟨'i', by decide, by decide⟩
  · exact failsWith_error (columnMessage_mismatch _)

theorem failsWith_castJson (jsonb : J → Bool) (value : J) :
    FailsWith ColumnMessage (castJson jsonb column value) := by
  unfold castJson
  split
  · split
    · exact failsWith_ok _
    · exact failsWith_error ⟨'u', by decide, by decide⟩
  · exact failsWith_error (columnMessage_mismatch _)

theorem failsWith_castTimestamp (value : T) :
    FailsWith ColumnMessage (column.castTimestamp value) := by
  unfold castTimestamp
  split
  · exact failsWith_ok _
  · exact failsWith_error (columnMessage_mismatch _)

end Column

namespace TableDdl

open Except

variable {α : Type} {ddl : TableDdl} {name : String} {cast : Column → α → Except String α}

theorem columnMessage_missing : ColumnMessage ("column \"" ++ name ++ "\" does not exist") :=
  .append (.append ⟨'c', by decide, by decide⟩ _) _

theorem failsWith_assign (casts : ∀ column value, FailsWith ColumnMessage (cast column value))
    (value : α) : FailsWith ColumnMessage (ddl.assign name cast value) := by
  unfold assign
  split
  · exact casts _ _
  · exact failsWith_error columnMessage_missing

theorem failsWith_assignNullable
    (casts : ∀ column value, FailsWith ColumnMessage (cast column value)) (value : Option α) :
    FailsWith ColumnMessage (ddl.assignNullable name cast value) := by
  unfold assignNullable
  split
  · exact (casts _ _).map
  · split
    · exact failsWith_error Column.columnMessage_nullViolation
    · exact failsWith_ok _
  · exact failsWith_error columnMessage_missing

theorem failsWith_fillDefaults (listed : List String) :
    FailsWith ColumnMessage (ddl.fillDefaults listed) := by
  unfold fillDefaults
  split
  · exact failsWith_error Column.columnMessage_nullViolation
  · exact failsWith_ok _

end TableDdl
