import DevServer.Number.Decimal
import DevServer.Settings.Basic
import DevServer.Toml.Decode
import DevServer.Toml.Document
import DevServer.Toml.Excerpt

/-!
Settings from a document. Every field is read on its own from the entry of its name; a section
may also be an array of its fields in order.
-/
namespace DevServer

set_option autoImplicit false

open Toml (Decoder)
open Toml.Decoder (FieldReader)

/-- A field that a decoder reads and `put` writes. -/
def fieldOf {α σ : Type} (name : String) (decode : Decoder α) (put : α → σ → σ) : FieldReader σ where
  name
  set node s := (decode node).map (put · s)

def Listener.fields : List (FieldReader Listener) :=
  [ fieldOf "host" .text fun host l => { l with host },
    fieldOf "port" (.natural Number.Decimal.maxUInt16 "u16") fun n l =>
      { l with port := UInt16.ofNat n } ]

def Timeouts.fields : List (FieldReader Timeouts) :=
  [ fieldOf "request_secs" (.natural Number.Decimal.maxUInt64 "u64") fun n t =>
      { t with requestSecs := UInt64.ofNat n } ]

def Security.fields : List (FieldReader Security) :=
  [ fieldOf "max_body_size" (.natural Number.Decimal.maxUInt64 "usize") fun n s =>
      { s with maxBodySize := UInt64.ofNat n } ]

def LogFormat.variants : List (String × LogFormat) :=
  [LogFormat.pretty, LogFormat.json].map fun f => (f.name, f)

def Observability.fields : List (FieldReader Observability) :=
  [ fieldOf "log_level" .text fun logLevel o => { o with logLevel },
    fieldOf "log_format" (.variant LogFormat.variants) fun logFormat o => { o with logFormat },
    fieldOf "metrics_enabled" .truth fun metricsEnabled o => { o with metricsEnabled },
    fieldOf "metrics_address" .text fun metricsAddress o => { o with metricsAddress } ]

/-- A section is read from its defaults, whatever was there before. -/
def Settings.fields : List (FieldReader Settings) :=
  [ fieldOf "adapter" .text fun adapter s => { s with adapter := some adapter },
    fieldOf "strict_adapter" .truth fun strictAdapter s => { s with strictAdapter },
    fieldOf "listener" (.record "struct ListenerConfig" Listener.fields {}) fun listener s =>
      { s with listener },
    fieldOf "timeouts" (.record "struct TimeoutConfig" Timeouts.fields {}) fun timeouts s =>
      { s with timeouts },
    fieldOf "security" (.record "struct SecurityConfig" Security.fields {}) fun security s =>
      { s with security },
    fieldOf "observability" (.record "struct ObservabilityConfig" Observability.fields {})
      fun observability s => { s with observability } ]

def Settings.ofTable (t : Toml.Table) : Except Toml.Misfit Settings :=
  Toml.Decoder.fromEntries Settings.fields t.entries {}

/-- Why a text gives no settings: the place and the message, and the names that lead to the entry
at fault, of which there are none if the text is no document. -/
structure DocumentFault extends Toml.Excerpt where
  keys : List String

/-- The fault of a text that is no document: it is about the character where reading stopped. -/
def DocumentFault.ofFailure (text : List Char) (f : Toml.Failure) : DocumentFault :=
  { text, span := some ⟨f.left, f.left - 1⟩, message := f.message, keys := [] }

/-- The fault of a document with an entry that does not fit. -/
def DocumentFault.ofMisfit (text : List Char) (m : Toml.Misfit) : DocumentFault :=
  { text, span := m.span, message := m.mismatch.message, keys := m.keys }

def Settings.ofDocument (text : String) : Except DocumentFault Settings :=
  match Toml.read text.toList with
  | .error f => .error (.ofFailure text.toList f)
  | .ok t =>
    match Settings.ofTable t with
    | .error m => .error (.ofMisfit text.toList m)
    | .ok s => .ok s

end DevServer
