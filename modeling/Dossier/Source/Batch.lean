import Dossier.Schema.Reading
import Dossier.Value.Wire

/-!
# Batches

What a data source answers with: a page of data, or the word that it is not ready yet. A batch that
is pending may say how to go on. Entries that no key declares are kept.
-/

set_option autoImplicit false

namespace Dossier

open Schema Number

inductive Progress where
  | pending
  | complete
  deriving DecidableEq, Repr, Inhabited

namespace Progress

def name : Progress → String
  | .pending => "pending"
  | .complete => "complete"

def options : List (String × Progress) := [("pending", .pending), ("complete", .complete)]

end Progress

structure Batch where
  status : Progress
  data : Value
  nextPage : Option String
  context : Option Fields
  apiUrl : Option String
  source : Option String
  metadata : Value
  delay : Option Binary
  maxRetry : Option Int
  extras : Fields
  deriving Repr, Inhabited

namespace Batch

def keys : List Key :=
  [.word "status", .word "data", ⟨"nextPage", "next_page"⟩, .word "context",
    ⟨"apiUrl", "api_url"⟩, .word "source", .word "metadata", .word "delay",
    ⟨"maxRetry", "max_retry"⟩]

def read : Reader Batch :=
  record "DataSetResult" fun fields =>
    Batch.mk <$> required fields (.word "status") (among Progress.options)
      <*> defaulted fields (.word "data") .null any
      <*> maybe fields ⟨"nextPage", "next_page"⟩ text
      <*> maybe fields (.word "context") object
      <*> maybe fields ⟨"apiUrl", "api_url"⟩ text
      <*> maybe fields (.word "source") text
      <*> defaulted fields (.word "metadata") .null any
      <*> maybe fields (.word "delay") number
      <*> maybe fields ⟨"maxRetry", "max_retry"⟩ whole
      <*> pure (leftovers keys fields)

def toWire (b : Batch) : Value :=
  .ofEntries ([("status", some (.text b.status.name)),
    ("data", b.data.free),
    ("nextPage", Value.ofText? b.nextPage),
    ("context", b.context.map Value.freeObject),
    ("apiUrl", Value.ofText? b.apiUrl),
    ("source", Value.ofText? b.source),
    ("metadata", b.metadata.free),
    ("delay", b.delay.map .float),
    ("maxRetry", b.maxRetry.map .int)] ++
    b.extras.map fun (key, v) => (key, v.free))

/-- The cursor of the next page, when there is one; an empty cursor is none. -/
def cursor? (b : Batch) : Option String := b.nextPage.filter (· != "")

end Batch

end Dossier
