import Diagnosis.Diagnostic
import Diagnosis.Document
import Diagnosis.Keyed
import Diagnosis.Settings.Basic

/-!
# Sessions

What is remembered between passes: the documents that are open, the settings
that were found for them, and the set of diagnostics that was last shown for
each. All of it goes when a document is closed.
-/

namespace Diagnosis

/-- What is remembered between passes, by the addresses of documents. -/
structure Session where
  documents : Keyed Document := []
  settings : Keyed Settings := []
  published : Keyed (List Diagnostic) := []
  deriving Repr, Inhabited

namespace Session

/-- With a document open, in place of an older version of it. -/
def hold (s : Session) (d : Document) : Session := { s with documents := s.documents.put d.uri d }

/-- Without anything about a document. -/
def close (s : Session) (uri : String) : Session :=
  { documents := s.documents.erase uri
    settings := s.settings.erase uri
    published := s.published.erase uri }

/-- With the settings that were found for a document. -/
def keepSettings (s : Session) (uri : String) (settings : Settings) : Session :=
  { s with settings := s.settings.put uri settings }

/-- Without any settings that were found. -/
def invalidate (s : Session) : Session := { s with settings := [] }

/-- With a set of diagnostics in place of the last one of a document. -/
def publish (s : Session) (uri : String) (ds : List Diagnostic) : Session :=
  { s with published := s.published.put uri ds }

/-- The set that was last shown for a document. -/
def diagnostics (s : Session) (uri : String) : List Diagnostic := (s.published.get? uri).getD []

/-- Whether an error is shown for any document. -/
def anyErrors (s : Session) : Bool := s.published.any fun (_, ds) => hasError ds

/-- Whether an error is shown for a document, or for any if none is named. -/
def hasErrors (s : Session) (uri : Option String) : Bool :=
  match uri.filter (! ·.isEmpty) with
  | some uri => hasError (s.diagnostics uri)
  | none => s.anyErrors

end Session

end Diagnosis
