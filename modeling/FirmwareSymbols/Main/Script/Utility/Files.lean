import FirmwareSymbols.Main.Script.Utility.Basic

/-!
# Programs that change files

Copying, moving, removing and making files, directories and links, and listing directories.
-/

namespace FirmwareSymbols.Script.Utility

/-! ### Names -/

/-- A path without the slashes at its end. -/
def withoutSlashes (path : String) : String :=
  let kept := (path.toList.reverse.dropWhile (· = '/')).reverse
  if kept.isEmpty && path ≠ "" then "/" else String.ofList kept

/-- The last part of a path. -/
def baseName (path : String) : String :=
  let path := withoutSlashes path
  if path = "/" then path else String.ofList (path.toList.reverse.takeWhile (· ≠ '/')).reverse

/-- A path without its last part. -/
def dirName (path : String) : String :=
  let path := withoutSlashes path
  let front := (path.toList.reverse.dropWhile (· ≠ '/')).reverse
  if front.isEmpty then "." else withoutSlashes (String.ofList front)

/-- A name without a suffix, unless nothing would be left. -/
def withoutSuffix (name suffix : String) : String :=
  match if name = suffix then none else suffix.toList.reverse.isPrefixOf? name.toList.reverse with
  | some front => String.ofList front.reverse
  | none => name

def basename : Utility := fun _ =>
  withOptions [⟨'a', "multiple", false⟩, ⟨'s', "suffix", true⟩, ⟨'z', "zero", false⟩] true 1 fun call => do
    let ending := if call.has 'z' then "\x00" else "\n"
    let tell (names : List String) (suffix : String) : Action Nat :=
      writeString (String.join (names.map fun name => withoutSuffix (baseName name) suffix ++ ending))
    match call.operands with
    | [] => refuse "missing operand"
    | names =>
      if call.has 'a' || call.has 's' then tell names ((call.argument? 's').getD "")
      else
        match names with
        | _ :: _ :: extra :: _ => refuse ("extra operand " ++ quote extra)
        | name :: more => tell [name] (more.head?.getD "")
        | [] => return 1

def dirname : Utility := fun _ =>
  withOptions [⟨'z', "zero", false⟩] false 1 fun call => do
    if call.operands.isEmpty then refuse "missing operand"
    else writeString (String.join (call.operands.map fun name => dirName name ++ if call.has 'z' then "\x00" else "\n"))

/-! ### Changes -/

/-- Changes the files, or gives the cause why that was not possible. -/
def change (f : FileSystem → Except IoCause FileSystem) : Action (Option IoCause) := do
  let m ← get
  match f m.files with
  | .ok files =>
    set { m with files }
    return none
  | .error cause => return some cause

/-- Runs an action for each operand; the status tells whether one of them failed. -/
def eachOperand (operands : List String) (p : String → Action Bool) : Action Nat := do
  let mut status := 0
  for operand in operands do
    if !(← p operand) then status := 1
  return status

/-- Changes the files, or complains. -/
def changeOr (f : FileSystem → Except IoCause FileSystem) (act : String) : Action Bool := do
  match ← change f with
  | none => return true
  | some cause =>
    complain (act ++ ": " ++ cause.words)
    return false

def files : Action FileSystem := do return (← get).files

def rmdir : Utility := fun _ =>
  withOptions [⟨'p', "parents", false⟩, ⟨'v', "verbose", false⟩] false 1 fun call => do
    if call.operands.isEmpty then refuse "missing operand"
    else eachOperand call.operands fun path =>
      changeOr (·.removeDirectory ⟨path⟩) ("failed to remove " ++ quote path)

/-- Removes an entry with all that is below it, if that is allowed. -/
def removeOne (call : Call) (path : String) : Action Bool := do
  let refuseIt (words : String) : Action Bool := do
    complain ("cannot remove " ++ quote path ++ ": " ++ words)
    return false
  let isRecursive := call.has 'r' || call.has 'R'
  match (← files).entry ⟨path⟩ with
  | .error cause =>
    if call.has 'f' && (cause = .notFound || cause = .notDirectory) then return true else refuseIt cause.words
  | .ok (l, .directory) =>
    if isRecursive then
      if baseName path = "." || baseName path = ".." then
        complain ("refusing to remove '.' or '..' directory: skipping " ++ quote path)
        return false
      modify fun m => { m with files := m.files.removeTree l }
      return true
    else if call.has 'd' then changeOr (·.removeDirectory ⟨path⟩) ("cannot remove " ++ quote path)
    else refuseIt IoCause.isDirectory.words
  | .ok _ => changeOr (·.removeEntry ⟨path⟩) ("cannot remove " ++ quote path)

def rm : Utility := fun _ =>
  withOptions [⟨'r', "recursive", false⟩, ⟨'R', "", false⟩, ⟨'f', "force", false⟩, ⟨'d', "dir", false⟩,
      ⟨'v', "verbose", false⟩, ⟨'i', "", false⟩] false 1 fun call => do
    if call.operands.isEmpty then (if call.has 'f' then return 0 else refuse "missing operand")
    else eachOperand call.operands (removeOne call)

def mkdir : Utility := fun _ =>
  withOptions [⟨'p', "parents", false⟩, ⟨'m', "mode", true⟩, ⟨'v', "verbose", false⟩] false 1 fun call => do
    if call.operands.isEmpty then refuse "missing operand"
    else eachOperand call.operands fun path => do
      let act := "cannot create directory " ++ quote path
      if call.has 'p' then
        if (← files).isDirectory ⟨path⟩ then return true
        changeOr (·.makeDirectories ⟨path⟩) act
      else changeOr (·.makeDirectory ⟨path⟩) act

def touch : Utility := fun _ =>
  withOptions [⟨'c', "no-create", false⟩, ⟨'a', "", false⟩, ⟨'m', "", false⟩, ⟨'t', "", true⟩, ⟨'d', "date", true⟩,
      ⟨'r', "reference", true⟩] false 1 fun call => do
    if call.operands.isEmpty then refuse "missing file operand"
    else eachOperand call.operands fun path => do
      let fs ← files
      if (fs.stat ⟨path⟩).isOk || call.has 'c' then return true
      changeOr (·.writeInPlace ⟨path⟩ id) ("cannot touch " ++ quote path)

/-- A mode asks for files to be executable, or for the contrary, or says nothing about it; `none` if it is no mode. -/
def modeOf? (text : String) : Option (Bool → Bool) :=
  if text ≠ "" && text.toList.all isOctal then
    some fun _ => text.toList.reverse.take 3 |>.any fun c => Text.digitValue c % 2 = 1
  else
    (text.splitOn ",").foldlM (fun (f : Bool → Bool) clause =>
      let rest := clause.toList.dropWhile "ugoa".toList.contains
      match rest with
      | sign :: letters =>
        if !letters.all "rwxXst".toList.contains then none
        else
          let hasX := letters.contains 'x'
          match sign with
          | '+' => some fun b => f b || hasX
          | '-' => some fun b => f b && !hasX
          | '=' => some fun _ => hasX
          | _ => none
      | [] => none) id

def chmod : Utility := fun _ arguments => do
  let (options, operands) := arguments.partition fun a => ["-R", "-v", "-f", "-c", "--recursive"].contains a
  match operands.filter (· ≠ "--") with
  | [] => refuse "missing operand"
  | [mode] => refuse ("missing operand after " ++ quote mode)
  | mode :: paths =>
    match modeOf? mode with
    | none => refuse ("invalid mode: " ++ quote mode)
    | some f => eachOperand paths fun path => do
      match (← files).stat ⟨path⟩ with
      | .error cause =>
        if !options.contains "-f" then complain ("cannot access " ++ quote path ++ ": " ++ cause.words)
        return false
      | .ok (l, _) =>
        let isBelow (k : Location) : Bool := if options.contains "-R" then l.isPrefixOf k else k = l
        modify fun m => { m with files := { m.files with nodes := m.files.nodes.map fun (k, n) =>
          match n with
          | .file content executable => (k, if isBelow k then .file content (f executable) else n)
          | .sealed cause executable => (k, if isBelow k then .sealed cause (f executable) else n)
          | _ => (k, n) } }
        return true

/-! ### Copying, moving and linking -/

/-- The operands as sources and a goal, and whether the goal is a directory that the sources go into. -/
structure Transfer where
  sources : List String
  goal : String
  isInto : Bool

/-- Reads the operands of a transfer, or refuses them. -/
def transfer (call : Call) (p : Transfer → Action Nat) : Action Nat := do
  match call.argument? 't', call.operands.reverse with
  | some dir, _ => p ⟨call.operands, dir, true⟩
  | none, [] => refuse "missing file operand"
  | none, [one] => refuse ("missing destination file operand after " ++ quote one)
  | none, goal :: sources =>
    let isInto := !call.has 'T' && (← files).isDirectory ⟨goal⟩
    if !isInto && 1 < sources.length then
      let words := match (← files).stat ⟨goal⟩ with
        | .ok _ => IoCause.notDirectory.words
        | .error cause => cause.words
      complain ("target " ++ quote goal ++ ": " ++ words)
      return 1
    p ⟨sources.reverse, goal, isInto⟩

/-- The path to which a source goes. -/
def Transfer.pathOf (t : Transfer) (source : String) : String :=
  if t.isInto then ((Path.mk t.goal).join (baseName source)).text else t.goal

/-- Copies a tree of nodes to a location. -/
def copyTree (fs : FileSystem) (source goal : Location) : FileSystem :=
  (fs.nodes.filterMap fun (k, n) => (source.isPrefixOf? k).map fun below => (goal ++ below, n)).foldl
    (fun fs (k, n) => fs.set k n) fs

/-- Copies one file or directory. -/
def copyOne (call : Call) (source goal : String) : Action Bool := do
  let fs ← files
  let isRecursive := call.has 'r' || call.has 'R' || call.has 'a'
  let found := if call.has 'a' || call.has 'P' || call.has 'd' || (isRecursive && !call.has 'L')
    then fs.entry ⟨source⟩ else fs.stat ⟨source⟩
  let say (text : String) : Action Bool := do
    complain text
    return false
  match found with
  | .error cause => say ("cannot stat " ++ quote source ++ ": " ++ cause.words)
  | .ok (l, n) =>
    let isSame := fs.isSame ⟨source⟩ ⟨goal⟩
    match n, fs.stat ⟨goal⟩ with
    | .directory, there =>
      if !isRecursive then say ("-r not specified; omitting directory " ++ quote source)
      else
        match there with
        | .ok (k, .directory) =>
          if l.isPrefixOf k then say ("cannot copy a directory, " ++ quote source ++ ", into itself, " ++ quote goal)
          else
            modify fun m => { m with files := copyTree m.files l k }
            return true
        | .ok _ => say ("cannot overwrite non-directory " ++ quote goal ++ " with directory " ++ quote source)
        | .error _ =>
          match fs.makeDirectory ⟨goal⟩ with
          | .error cause => say ("cannot create directory " ++ quote goal ++ ": " ++ cause.words)
          | .ok made =>
            match made.locate ⟨goal⟩ with
            | .ok k =>
              if l.isPrefixOf k then
                say ("cannot copy a directory, " ++ quote source ++ ", into itself, " ++ quote goal)
              else
                modify fun m => { m with files := copyTree made l k }
                return true
            | .error _ => return false
    | _, .ok (_, .directory) =>
      say ("cannot overwrite directory " ++ quote goal ++ " with non-directory " ++ quote source)
    | .link target, there =>
      if isSame then say (quote source ++ " and " ++ quote goal ++ " are the same file")
      else
        if there.isOk then modify fun m => { m with files := (m.files.removeEntry ⟨goal⟩).toOption.getD m.files }
        changeOr (·.addEntry ⟨goal⟩ (.link target)) ("cannot create symbolic link " ++ quote goal)
    | .sealed cause _, _ => say ("cannot open " ++ quote source ++ " for reading: " ++ cause.words)
    | n, there =>
      if isSame then say (quote source ++ " and " ++ quote goal ++ " are the same file")
      else if call.has 'n' && there.isOk then return true
      else
        let (content, executable) := match n with
          | .file content executable => (content, executable)
          | _ => (.empty, false)
        let written ← changeOr (·.writeInPlace ⟨goal⟩ fun _ => content) ("cannot create regular file " ++ quote goal)
        if written && (!there.isOk || call.has 'p' || call.has 'a') then
          let _ ← change (·.setExecutable ⟨goal⟩ executable)
        return written

def copyOptions : List Known :=
  [⟨'r', "recursive", false⟩, ⟨'R', "", false⟩, ⟨'a', "archive", false⟩, ⟨'f', "force", false⟩, ⟨'p', "", false⟩,
    ⟨'n', "no-clobber", false⟩, ⟨'v', "verbose", false⟩, ⟨'T', "no-target-directory", false⟩,
    ⟨'t', "target-directory", true⟩, ⟨'P', "no-dereference", false⟩, ⟨'L', "dereference", false⟩, ⟨'d', "", false⟩,
    ⟨'i', "interactive", false⟩, ⟨'u', "update", false⟩]

def cp : Utility := fun _ =>
  withOptions copyOptions false 1 fun call => transfer call fun t => do
    let verbose (source goal : String) (done : Bool) : Action Bool := do
      if done && call.has 'v' then let _ ← writeString (quote source ++ " -> " ++ quote goal ++ "\n")
      return done
    eachOperand t.sources fun source => do
      let goal := t.pathOf source
      verbose source goal (← copyOne call source goal)

/-- Moves one file or directory. -/
def moveOne (call : Call) (source goal : String) : Action Bool := do
  let fs ← files
  let say (text : String) : Action Bool := do
    complain text
    return false
  match fs.entry ⟨source⟩ with
  | .error cause => say ("cannot stat " ++ quote source ++ ": " ++ cause.words)
  | .ok (l, n) =>
    let isDirectory := match n with
      | .directory => true
      | _ => false
    match fs.entry ⟨goal⟩ with
    | .ok (k, there) =>
      if call.has 'n' then return true
      else if k = l then say (quote source ++ " and " ++ quote goal ++ " are the same file")
      else
        match isDirectory, there with
        | false, .directory => say ("cannot overwrite directory " ++ quote goal ++ " with non-directory " ++ quote source)
        | true, .directory =>
          if l.isPrefixOf k then
            say ("cannot move " ++ quote source ++ " to a subdirectory of itself, " ++ quote goal)
          else changeOr (·.moveEntry ⟨source⟩ ⟨goal⟩) ("cannot overwrite " ++ quote goal)
        | true, _ => say ("cannot overwrite non-directory " ++ quote goal ++ " with directory " ++ quote source)
        | false, _ => changeOr (·.moveEntry ⟨source⟩ ⟨goal⟩) ("cannot move " ++ quote source ++ " to " ++ quote goal)
    | .error _ =>
      match fs.place ⟨goal⟩ with
      | .ok (dir, name) =>
        if isDirectory && l.isPrefixOf (dir ++ [name]) then
          say ("cannot move " ++ quote source ++ " to a subdirectory of itself, " ++ quote goal)
        else changeOr (·.moveEntry ⟨source⟩ ⟨goal⟩) ("cannot move " ++ quote source ++ " to " ++ quote goal)
      | .error cause => say ("cannot move " ++ quote source ++ " to " ++ quote goal ++ ": " ++ cause.words)

def mv : Utility := fun _ =>
  withOptions copyOptions false 1 fun call => transfer call fun t => do
    eachOperand t.sources fun source => do
      let goal := t.pathOf source
      let done ← moveOne call source goal
      if done && call.has 'v' then
        let _ ← writeString ("renamed " ++ quote source ++ " -> " ++ quote goal ++ "\n")
      return done

/-- Links one file. -/
def linkOne (call : Call) (source goal : String) : Action Bool := do
  let fs ← files
  let kind := if call.has 's' then "symbolic link " else "hard link "
  let node : Except IoCause Node := if call.has 's' then .ok (.link ⟨source⟩) else (fs.entry ⟨source⟩).map Prod.snd
  match node with
  | .error cause =>
    complain ("failed to access " ++ quote source ++ ": " ++ cause.words)
    return false
  | .ok .directory =>
    complain (source ++ ": hard link not allowed for directory")
    return false
  | .ok n =>
    if call.has 'f' then modify fun m => { m with files := (m.files.removeEntry ⟨goal⟩).toOption.getD m.files }
    let arrow := if call.has 's' then "" else " => " ++ quote source
    changeOr (·.addEntry ⟨goal⟩ n) ("failed to create " ++ kind ++ quote goal ++ arrow)

def ln : Utility := fun _ =>
  withOptions [⟨'s', "symbolic", false⟩, ⟨'f', "force", false⟩, ⟨'n', "no-dereference", false⟩, ⟨'v', "verbose", false⟩,
      ⟨'T', "no-target-directory", false⟩, ⟨'t', "target-directory", true⟩, ⟨'r', "relative", false⟩] false 1 fun call => do
    let fs ← files
    match call.operands with
    | [] => refuse "missing file operand"
    | [source] => eachOperand [source] fun source => linkOne call source (baseName source)
    | operands =>
      let goal := operands.getLast?.getD ""
      let isLink := call.has 'n' && match fs.entry ⟨goal⟩ with
        | .ok (_, .link _) => true
        | _ => false
      let t : Transfer := ⟨operands.dropLast, goal, !call.has 'T' && !isLink && fs.isDirectory ⟨goal⟩⟩
      if !t.isInto && 1 < t.sources.length then
        complain ("target " ++ quote goal ++ ": " ++ IoCause.notDirectory.words)
        return 1
      eachOperand t.sources fun source => linkOne call source (t.pathOf source)

/-! ### Looking at files -/

def readlink : Utility := fun _ =>
  withOptions [⟨'f', "canonicalize", false⟩, ⟨'e', "canonicalize-existing", false⟩, ⟨'n', "no-newline", false⟩,
      ⟨'m', "canonicalize-missing", false⟩, ⟨'q', "quiet", false⟩] false 1 fun call => do
    if call.operands.isEmpty then refuse "missing operand"
    else eachOperand call.operands fun path => do
      let fs ← files
      let ending := if call.has 'n' then "" else "\n"
      if call.has 'f' || call.has 'e' || call.has 'm' then
        let there : Option Location := match fs.locate ⟨path⟩ with
          | .ok l => some l
          | .error _ => if call.has 'e' then none else ((fs.openPlace (FileSystem.maxLinks + 1) ⟨path⟩).toOption)
        match there with
        | some l =>
          let _ ← writeString ((FileSystem.pathOf l).text ++ ending)
          return true
        | none => return false
      else
        match fs.entry ⟨path⟩ with
        | .ok (_, .link target) =>
          let _ ← writeString (target.text ++ ending)
          return true
        | _ => return false

def realpath : Utility := fun _ =>
  withOptions [⟨'e', "canonicalize-existing", false⟩, ⟨'m', "canonicalize-missing", false⟩, ⟨'s', "strip", false⟩,
      ⟨'q', "quiet", false⟩] false 1 fun call => do
    if call.operands.isEmpty then refuse "missing operand"
    else eachOperand call.operands fun path => do
      let fs ← files
      match fs.locate ⟨path⟩, fs.openPlace (FileSystem.maxLinks + 1) ⟨path⟩ with
      | .ok l, _ =>
        let _ ← writeString ((FileSystem.pathOf l).text ++ "\n")
        return true
      | .error _, .ok l =>
        let _ ← writeString ((FileSystem.pathOf l).text ++ "\n")
        return true
      | .error cause, .error _ =>
        if !call.has 'q' then complain (path ++ ": " ++ cause.words)
        return false

def mktemp : Utility := fun _ =>
  withOptions [⟨'d', "directory", false⟩, ⟨'u', "dry-run", false⟩, ⟨'q', "quiet", false⟩, ⟨'t', "", false⟩,
      ⟨'p', "tmpdir", true⟩] false 1 fun call => do
    let fs ← files
    let pattern := call.operands.head?.getD "tmp.XXXXXXXXXX"
    let stem := String.ofList (pattern.toList.reverse.dropWhile (· = 'X')).reverse
    let dir := (call.argument? 'p').getD "/tmp"
    let front := if call.operands.isEmpty || call.has 't' || call.has 'p' then ((Path.mk dir).join stem).text else stem
    let fill (n : Nat) : String :=
      let digits := Nat.toDigits 10 n
      front ++ String.ofList (List.replicate (pattern.length - stem.length - digits.length) 'a' ++ digits)
    let path := ((List.range (fs.nodes.length + 1)).map fill).find? fun p => !fs.hasEntry ⟨p⟩
    let path := path.getD front
    let made ← if call.has 'u' then pure true
      else if call.has 'd' then changeOr (·.makeDirectory ⟨path⟩) ("failed to create directory via template " ++ quote pattern)
      else changeOr (·.addEntry ⟨path⟩ (.file .empty false)) ("failed to create file via template " ++ quote pattern)
    if made then writeString (path ++ "\n") else return 1

/-- Entries in the order of their names. -/
def inOrder (call : Call) (entries : List (String × Node)) : List (String × Node) :=
  let sorted := entries.mergeSort fun a b => !decide (b.1 < a.1)
  if call.has 'r' then sorted.reverse else sorted

/-- The entries of a directory that are listed. -/
def listed (call : Call) (entries : List (String × Node)) : List (String × Node) :=
  let all := if call.has 'a' then (".", Node.directory) :: ("..", Node.directory) :: entries else entries
  inOrder call (all.filter fun e => call.has 'a' || call.has 'A' || e.1.toList.head? ≠ some '.')

/-- A name with the mark of its kind, if marks are asked for. -/
def marked (call : Call) (e : String × Node) : String :=
  let mark := match e.2 with
    | .directory => if call.has 'F' || call.has 'p' then "/" else ""
    | .link _ => if call.has 'F' then "@" else ""
    | .file _ true | .sealed _ true => if call.has 'F' then "*" else ""
    | _ => ""
  e.1 ++ mark ++ "\n"

def ls : Utility := fun _ =>
  withOptions [⟨'1', "", false⟩, ⟨'a', "all", false⟩, ⟨'A', "almost-all", false⟩, ⟨'d', "directory", false⟩,
      ⟨'F', "classify", false⟩, ⟨'p', "", false⟩, ⟨'r', "reverse", false⟩, ⟨'t', "", false⟩] false 2 fun call => do
    let fs ← files
    let operands := if call.operands.isEmpty then ["."] else call.operands
    let found := operands.map fun path => (path, if (fs.stat ⟨path⟩).isOk then fs.stat ⟨path⟩ else fs.entry ⟨path⟩)
    let mut status := 0
    for (path, result) in found do
      if let .error cause := result then
        complain ("cannot access " ++ quote path ++ ": " ++ cause.words)
        status := 2
    let there := found.filterMap fun (path, result) => match result with
      | .ok (l, n) => some (path, l, n)
      | .error _ => none
    let isDirectory (e : String × Location × Node) : Bool := match e.2.2 with
      | .directory => !call.has 'd'
      | _ => false
    let plain := inOrder call ((there.filter fun e => !isDirectory e).map fun e => (e.1, e.2.2))
    let dirs := (there.filter isDirectory).mergeSort fun a b => !decide (b.1 < a.1)
    let first := String.join (plain.map (marked call))
    let block (e : String × Location × Node) : String :=
      (if operands.length = 1 then "" else e.1 ++ ":\n") ++
        String.join ((listed call (fs.children e.2.1)).map (marked call))
    let blocks := dirs.map block
    let text := "\n".intercalate ((if plain.isEmpty then [] else [first]) ++ blocks)
    return max status (← writeString text)

end FirmwareSymbols.Script.Utility
