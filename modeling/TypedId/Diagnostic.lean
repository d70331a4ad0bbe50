/-
What an expansion can find wrong. Each finding has a cause, which fixes its
wording, and the place it was found at. A report is one finding or several,
in the order they were made; two reports merge into one. It is also what an
expansion that fails puts in place of code.
-/
import TypedId.Fault
import TypedId.Text.Escaped

namespace TypedId

/-- Why a capability cannot be had. -/
inductive Conflict where
  /-- Identifiers are made from raw values and have no zero value. -/
  | zeroValue
  /-- The implementation is generated in any case. -/
  | generated
  | duplicate
deriving DecidableEq, Repr

inductive Cause where
  | missingName
  /-- There is no raw type, or, with a detail, one that no identifier can wrap. -/
  | rawType (detail : Option String)
  | capability (name : String) (conflict : Conflict)
  | invalidName (name : String)
  | declaration (detail : String)
  /-- The tokens could not be read. -/
  | fault (complaint : Complaint) (atEnd : Bool)
  /-- Nothing was found wrong, and yet there is no declaration. -/
  | incomplete
  /-- A finding that was worded elsewhere. -/
  | worded (message : String)
deriving DecidableEq, Repr

namespace Cause

def message : Cause → String
  | .missingName => "identifier name missing: expected a non-empty string such as `\"ImageId\"`"
  | .rawType none =>
    "identifier raw value type missing: expected a type such as `Uuid` or `u64`"
  | .rawType (some detail) => "identifier raw value type unresolved: " ++ detail
  | .capability name .zeroValue =>
    "`" ++ name ++ "` conflicts with `Identifier`: identifiers are built from a raw value or " ++
      "`Identifier::unique`, not a default value"
  | .capability name .generated =>
    "`" ++ name ++ "` conflicts with `Identifier`: the implementation is generated by the macro"
  | .capability name .duplicate => "`" ++ name ++ "` is requested more than once"
  | .invalidName name => "`" ++ name ++ "` is not a valid Rust identifier"
  | .declaration detail => "#[identifier] cannot be applied here: " ++ detail
  | .fault complaint atEnd => Fault.message ⟨complaint, .callSite, atEnd⟩
  | .incomplete => "incomplete identifier declaration"
  | .worded message => message

end Cause

structure Diagnostic where
  cause : Cause
  span : Span
deriving DecidableEq, Repr

namespace Diagnostic

def ofFault (f : Fault) : Diagnostic := ⟨.fault f.complaint f.atEnd, f.span⟩

def message (d : Diagnostic) : String := d.cause.message

theorem message_ofFault (f : Fault) : (ofFault f).message = f.message := rfl

/-- The code that makes the compiler report a message. -/
def compileError (message : String) : Tokens :=
  Tokens.operator .callSite [':', ':'] ++ [.ident "core" .callSite] ++
    Tokens.operator .callSite [':', ':'] ++
    [.ident "compile_error" .callSite, .punct '!' false .callSite,
     .group .brace [.literal (Text.stringLiteral message) .callSite] .callSite]

def tokens (d : Diagnostic) : Tokens := compileError d.message

end Diagnostic

/-- At least one diagnostic. -/
structure Report where
  first : Diagnostic
  others : List Diagnostic
deriving DecidableEq, Repr

namespace Report

def ofFault (f : Fault) : Report := ⟨.ofFault f, []⟩

def ofDiagnostic (d : Diagnostic) : Report := ⟨d, []⟩

/-- The diagnostics in order. -/
def toList (r : Report) : List Diagnostic := r.first :: r.others

/-- The message of the first diagnostic stands for the report. -/
def message (r : Report) : String := r.first.message

/-- The code of all diagnostics, one after another. -/
def tokens (r : Report) : Tokens := r.toList.flatMap Diagnostic.tokens

/-- Two reports as one, with the diagnostics of the second behind those of the first. -/
def combine (r r' : Report) : Report := ⟨r.first, r.others ++ r'.toList⟩

/-- Reports merged into the first, one after another. -/
def merge? : List Report → Option Report
  | [] => none
  | r :: rs => some (rs.foldl combine r)

@[simp] theorem toList_ofDiagnostic (d : Diagnostic) : (ofDiagnostic d).toList = [d] := rfl

@[simp] theorem toList_combine (r r' : Report) :
    (r.combine r').toList = r.toList ++ r'.toList := rfl

theorem toList_foldl_combine (r : Report) (rs : List Report) :
    (rs.foldl combine r).toList = r.toList ++ rs.flatMap toList := by
  induction rs generalizing r with
  | nil => simp
  | cons r' rs ih => rw [List.foldl_cons, ih, toList_combine, List.flatMap_cons, List.append_assoc]

/-- Merging neither loses a diagnostic nor moves one. -/
theorem toList_of_merge? {rs : List Report} {r : Report} (h : merge? rs = some r) :
    r.toList = rs.flatMap toList := by
  cases rs with
  | nil => simp [merge?] at h
  | cons r' rs =>
    cases h
    rw [toList_foldl_combine, List.flatMap_cons]

theorem merge?_eq_none_iff {rs : List Report} : merge? rs = none ↔ rs = [] := by
  cases rs <;> simp [merge?]

end Report

end TypedId
