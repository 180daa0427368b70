import GameArchive.Value.Build

/-!
# Exceptions

An exception has a type and arguments, and its message is made of them. System errors are sorted
into types by their numbers; errors of an archive keep nothing but their message.
-/

namespace GameArchive

/-- What is said of a root without an archive. -/
def noArchiveMessage (root : Text) : Text :=
  "Invalid game archive '" ++ root ++ "' (expecting ./ and ./manifest.json)"

/-- What is said of a file that holds no manifest. -/
def manifestMessage (path problem : Text) : Text :=
  "JSON parse error in '" ++ path ++ "': " ++ problem

/-- The types of errors of an archive. -/
def archiveErrors : List Text := List.map Text.ofString
  ["GamePackError", "InvalidPackageError", "ManifestParseError", "SourceTransformError",
    "SettingsError"]

namespace Builder

/-- The kinds of exceptions that a system error of this number belongs to. -/
def systemErrorType (number : Int) : Text :=
  match number with
  | 1 | 13 => "PermissionError"
  | 2 => "FileNotFoundError"
  | 3 => "ProcessLookupError"
  | 4 => "InterruptedError"
  | 10 => "ChildProcessError"
  | 11 | 114 | 115 => "BlockingIOError"
  | 17 => "FileExistsError"
  | 20 => "NotADirectoryError"
  | 21 => "IsADirectoryError"
  | 32 | 108 => "BrokenPipeError"
  | 103 => "ConnectionAbortedError"
  | 104 => "ConnectionResetError"
  | 110 => "TimeoutError"
  | 111 => "ConnectionRefusedError"
  | _ => "OSError"

/-- A system error. One with a number and a text takes the type that belongs to its number, and
keeps the paths of files apart from its arguments. -/
def systemError (args : List Value) : Object :=
  match args with
  | number :: problem :: more =>
    if 3 < more.length then .exception "OSError" .plain args
    else
      let number? : Option Int := match number with
        | .scalar s => s.integer?
        | .object _ => none
      let type := (number?.map systemErrorType).getD "OSError"
      let paths := [more[0]?, more[2]?].filterMap fun path => path.filter (· ≠ .scalar .null)
      if (more[0]?).all (· = .scalar .null) then .exception type (.system []) args
      else .exception type (.system paths) [number, problem]
  | _ => .exception "OSError" .plain args

/-- The message of an error of an archive, which is made of what it is given. -/
def archiveMessage (b : Builder) (type : Text) (args : List Value) :
    Except Value.Fault (List Value) :=
  let shown := fun (v : Value) => v.text b.heap
  let single := fun (t : Text) => [Value.scalar (.string t)]
  let missing := fun (names : List String) =>
    Except.error (.missingArguments type ((names.map Text.ofString).drop args.length))
  if type = Text.ofString "InvalidPackageError" then
    match args with
    | [] => missing ["root"]
    | [root] => (shown root).map fun root => single (noArchiveMessage root)
    | [root, message] =>
      if message.holds b.heap then .ok [message]
      else (shown root).map fun root => single (noArchiveMessage root)
    | _ => .error (.extraArguments type 2 3 (args.length + 1))
  else if type = Text.ofString "ManifestParseError" then
    match args with
    | [path, _, problem] => do
      return single (manifestMessage (← shown path) (← shown problem))
    | _ =>
      if 3 < args.length then .error (.extraArguments type 4 4 (args.length + 1))
      else missing ["path", "contents", "error"]
  else if type = Text.ofString "SourceTransformError" then
    if args.isEmpty then missing ["message"] else .ok (args.take 1)
  else .ok args

/-- The types whose message is made of the arguments as they are. -/
def plainErrors : List Text := List.map Text.ofString ["ValueError", "TypeError", "RuntimeError"]

/-- An exception of a type with its arguments, if the type is known. -/
def exception (b : Builder) (type : Text) (args : List Value) : Value × Builder :=
  if type = Text.ofString "OSError" then b.add (systemError args)
  else if type = Text.ofString "KeyError" then b.add (.exception type .quoted args)
  else if type = Text.ofString "BadStr" then b.add (.exception type .unprintable args)
  else if plainErrors.contains type then b.add (.exception type .plain args)
  else if archiveErrors.contains type then
    match b.archiveMessage type args with
    | .ok args => b.add (.exception type .plain args)
    | .error fault => (.scalar .null, b.fail fault)
  else (.scalar .null, b.fail (.unknownName type))

end Builder
end GameArchive
