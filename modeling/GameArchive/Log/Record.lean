import GameArchive.Log.Message
import GameArchive.Value.Exception
import GameArchive.Value.Json

/-!
# Log records

A record has a level, the name of its logger, a message, and perhaps an exception. It is written
with the context in which it is logged: as a line for people, or as one line of JSON.
-/

namespace GameArchive
namespace Log

inductive Level where
  /-- No level at all. -/
  | notSet
  | debug
  | info
  | warning
  | error
  | critical
deriving DecidableEq

namespace Level

def name : Level → Text
  | notSet => "NOTSET"
  | debug => "DEBUG"
  | info => "INFO"
  | warning => "WARNING"
  | error => "ERROR"
  | critical => "CRITICAL"

/-- The name in a JSON record. -/
def label : Level → Text
  | notSet => "notset"
  | debug => "debug"
  | info => "info"
  | warning => "warning"
  | error => "error"
  | critical => "critical"

/-- The number by which levels are compared. -/
def number : Level → Nat
  | notSet => 0
  | debug => 10
  | info => 20
  | warning => 30
  | error => 40
  | critical => 50

/-- The levels by all their names. -/
def names : List (Text × Level) :=
  [("NOTSET", notSet), ("DEBUG", debug), ("INFO", info), ("WARNING", warning), ("WARN", warning),
    ("ERROR", error), ("CRITICAL", critical), ("FATAL", critical)]

def ofName? (t : Text) : Option Level := names.lookup t

end Level

/-- An exception in a record: none of them, or a value with the type that it was given. -/
inductive Trace where
  | nothing
  | exception (type : Text) (value : Value)

/-- Seconds since the epoch. -/
inductive Time where
  | whole (seconds : Int)
  | exact (seconds : Binary64)

/-- Milliseconds, cut to an integer. -/
def Time.milliseconds : Time → Except FormatError Int
  | whole seconds => .ok (seconds * 1000)
  | exact seconds =>
    let x := seconds.times 1000
    match x.truncate? with
    | some n => .ok n
    | none => .error (.notFinite (x = .nan))

structure Record where
  level : Level
  logger : Text
  template : Text
  args : List Value
  created : Time
  trace : Option Trace
  stack : Text

/-- What is known where a record is logged, by name. Setting a value again keeps its place. -/
abbrev Context := List (Text × Value)

namespace Context

def put : Context → Text → Value → Context
  | [], name, value => [(name, value)]
  | (k, v) :: rest, name, value =>
    if k = name then (k, value) :: rest else (k, v) :: put rest name value

/-- Sets values. Null sets nothing. -/
def set (context : Option Context) (values : List (Text × Value)) : Context :=
  values.foldl (fun all (name, value) => if value = .scalar .null then all else all.put name value)
    (context.getD [])

/-- What a line for people shows of the context: the package and the script. -/
def label (heap : Heap) (context : Context) : Except Value.Fault Text := do
  let shown ← (["packageId", "script"].filterMap fun name =>
    (context.lookup (Text.ofString name)).filter (·.holds heap)).mapM (Value.text heap)
  return if shown.isEmpty then [] else " [" ++ Text.join "/" shown ++ "]"

/-- The context as an object of the heap that comes with it. -/
def object (heap : Heap) (context : Context) : Value × Builder :=
  (Builder.ofHeap heap).add (.mapping (context.map fun (name, v) => (.scalar (.string name), v)))

end Context

/-- The type of an exception in a trace. Errors of an archive are called by the module that has
them. -/
def traceType (type : Text) : Text :=
  if archiveErrors.contains type then "gamepack.core.errors." ++ type else type

namespace Trace

/-- The trace of an exception: its type, and its message unless that is empty. -/
def text (heap : Heap) : Trace → Text
  | nothing => "NoneType: None"
  | exception _ v =>
    let type := traceType (v.typeName heap)
    match v.text heap with
    | .ok [] => type
    | .ok message => type ++ ": " ++ message
    | .error _ => type ++ ": <exception str() failed>"

/-- The type, the message and the trace, as a JSON record has them. An exception without a message
to be had is not described. -/
def parts (heap : Heap) : Trace → Text × Text × Option Text
  | nothing => ("NoneType", "None", some "NoneType: None")
  | exception type v =>
    match v.text heap with
    | .ok message => (type, message, some (text heap (exception type v)))
    | .error _ => ("Error", "format failed", none)

end Trace

namespace Record

def message (heap : Heap) (r : Record) : Except FormatError Text :=
  Log.message heap r.template r.args

/-- The record as a line for people. -/
def line (heap : Heap) (context : Option Context) (r : Record) : Except FormatError Text := do
  let label ← ((context.getD []).label heap).mapError .value
  let message ← r.message heap
  let below := fun (t : Text) => CodePoint.ofChar '\n' :: t
  let trace : Text := (r.trace.map fun trace => below (trace.text heap)).getD []
  let stack : Text := if r.stack.isEmpty then [] else below r.stack
  return r.level.name ++ ": [" ++ r.logger ++ "] " ++ message ++ trace ++ stack ++ label

def string (t : Text) : Value := .scalar (.string t)

def entry (name : String) (v : Value) : Value × Value := (string name, v)

/-- The record as a value, with the heap that holds it. -/
def value (heap : Heap) (context : Option Context) (r : Record) (time : Int) (message : Text) :
    Value × Heap :=
  let (ctx, b) := (context.getD []).object heap
  let (trace, b) := match r.trace with
    | none => ([], b)
    | some trace =>
      let (type, text, stack) := trace.parts heap
      let shown := match stack with
        | some stack => string stack
        | none => .scalar .null
      let (v, b) := b.add (.mapping [entry "type" (string type), entry "message" (string text),
        entry "stack" shown])
      ([entry "exc" v], b)
  let (v, b) := b.add (.mapping ([entry "ts" (.scalar (.int time)),
    entry "level" (string r.level.label), entry "logger" (string r.logger),
    entry "msg" (string message), entry "ctx" ctx] ++ trace))
  (v, b.heap)

end Record

/-- Why a record cannot be written. -/
inductive RecordError where
  | format (e : FormatError)
  | dump (e : Value.DumpError)
deriving DecidableEq

/-- The record as one line of JSON, with the heap that is left of what it holds. -/
def Record.json (place : Nat → Nat) (heap : Heap) (context : Option Context) (r : Record) :
    Except RecordError Text × Heap :=
  match r.created.milliseconds, r.message heap with
  | .error e, _ | .ok _, .error e => (.error (.format e), heap)
  | .ok time, .ok message =>
    let (v, heap) := r.value heap context time message
    let (line, heap) := Value.dump place heap v
    (line.mapError .dump, heap)

end Log
end GameArchive
