import CommandLine.Objects.Basic

/-!
# Attribute lookup

Asking an object for a name follows the runtime's order:

* **an instance**: a descriptor that can be set, found along its type's classes, wins;
  then the instance's own namespace; then whatever the type's classes have (bound to the
  instance when it binds); then the type's hook, and last a missing-attribute error naming
  the type;
* **a class**: a descriptor that can be set, found along the metaclass's classes, wins;
  then the class's own classes (a descriptor found there binds to no instance); then the
  metaclass's entry (bound to the class); then an error naming the class;
* **a module**: as an instance, its namespace being the module's; a submodule the
  namespace holds counts only once that submodule is loaded;
* **a bound method**: its type's entries, then the same name asked of its function.

Binding follows the descriptor's shape: a function gives a bound method, a class method
one bound to the class, a static method its function, a method descriptor or slot
wrapper a builtin method, and any other descriptor its access rule.

## Termination

A lookup can ask another object (a method's function, an alias's origin, the descriptor a
builtin method comes from); `getAttr` counts those steps with its fuel.
-/

namespace CommandLine.Objects

namespace World

/-- Names an alias of a generic class answers itself. -/
def aliasOwnNames : List String :=
  ["__class__", "__origin__", "__args__", "__unpacked__", "__parameters__",
    "__typing_unpacked_tuple_args__", "__mro_entries__", "__reduce_ex__", "__reduce__",
    "__copy__", "__deepcopy__"]

def isDunder (name : String) : Bool :=
  name.startsWith "__" && name.endsWith "__"

/-- What an access rule gives for the object a descriptor is found on (`none` when it is
found through a class); `ask` asks another object a name. -/
def applyAccess (w : World) (ask : Obj → String → Outcome) (rule : Access) (descr : Nat)
    (inst : Option Obj) (name : String) : Outcome :=
  let itself : Outcome := .ok (.ref (.entry descr))
  match rule, inst with
  | .itself, _ => itself
  | .fixed a, _ => a.outcome name
  | _, none => itself
  | .typeOfObject, some i => .ok (.ref (.entry (w.typeOf i)))
  | .boundSelf, some i =>
    match i with
    | .method _ s | .builtinMethod _ s | .slotMethod _ s => .ok s
    | .ref (.entry s) =>
      match (w.entry s).self with
      | some r => .ok (.ref r)
      | none => itself
    | _ => itself
  | .boundFunc, some i =>
    match i with
    | .method f _ => .ok f
    | .ref (.entry s) =>
      match (w.entry s).func with
      | some r => .ok (.ref r)
      | none => itself
    | _ => itself
  | .objclass, some i =>
    let d? : Option Nat := match i with
      | .ref (.entry s) => some s
      | .builtinMethod d _ | .slotMethod d _ => some d
      | _ => none
    match d?.bind fun d => (w.entry d).descriptor with
    | some (_, c) => .ok (.ref (.entry c))
    | none => itself
  | .ofDescriptor, some i =>
    match i with
    | .builtinMethod d _ | .slotMethod d _ => ask (.ref (.entry d)) name
    | _ => itself
  | .baseOfClass, some (.ref (.entry c)) =>
    match w.facts? c with
    | some f =>
      match f.base with
      | some b => .ok (.ref b)
      | none => itself
    | none => itself
  | .abstractMethods, some (.ref (.entry c)) =>
    match (w.entry c).attrs.lookup "__abstractmethods__" with
    | some r => if c == w.typeType then .error (.missing .bare name) else .ok (.ref r)
    | none => .error (.missing .bare name)
  | .annotations, some (.ref (.entry c)) =>
    match (w.entry c).attrs.lookup "__annotations__", w.facts? c with
    | some r, _ => .ok (.ref r)
    | none, some f =>
      if f.heap then .ok (.ref (.valueOf w.dictType)) else .error (.missing (.type f.errorName) name)
    | none, none => itself
  | _, _ => itself

/-- What a descriptor entry gives when found on an object (`inst`, or none when found
through a class) whose type, or the class itself, is `owner`. -/
def bindDescriptor (w : World) (ask : Obj → String → Outcome) (descr : Nat) (inst : Option Obj)
    (owner : Obj) (name : String) : Outcome :=
  let e := w.entry descr
  let itself : Obj := .ref (.entry descr)
  match w.shapeOf descr with
  | .function =>
    match inst with
    | some i => .ok (.method itself i)
    | none => .ok itself
  | .classMethod =>
    match e.func with
    | some f => .ok (.method (.ref f) owner)
    | none => .ok itself
  | .staticMethod =>
    match e.func with
    | some f => .ok (.ref f)
    | none => .ok itself
  | .methodDescriptor =>
    match inst with
    | some i => .ok (.builtinMethod descr i)
    | none => .ok itself
  | .classMethodDescriptor => .ok (.builtinMethod descr owner)
  | .slotWrapper =>
    match inst with
    | some i => .ok (.slotMethod descr i)
    | none => .ok itself
  | _ =>
    if !w.binds descr then .ok itself
    else
      match inst with
      | none => w.applyAccess ask (e.onClass.getD .itself) descr none name
      | some i =>
        let rule := match i with
          | .ref (.entry _) => e.onInstance
          | _ => e.onValue <|> e.onInstance
        w.applyAccess ask (rule.getD .itself) descr (some i) name

/-- Whether a namespace entry of a module is visible: a submodule counts only once it is
loaded. -/
def visibleIn (w : World) (loaded : List String) (moduleName : Option String) (name : String)
    (r : Ref) : Bool :=
  match r, moduleName with
  | .entry i, some m =>
    match (w.entry i).kind with
    | .module (some sub) => sub != m ++ "." ++ name || loaded.contains sub
    | _ => true
  | _, _ => true

/-- The lookup on an instance or a module: a module reports a name nothing has by its own
name, an instance by its type's name or its type's hook. -/
def instanceGetAttr (w : World) (loaded : List String) (ask : Obj → String → Outcome) (o : Obj)
    (name : String) : Outcome :=
  let t := w.typeOf o
  let typeOwner : Obj := .ref (.entry t)
  let found := w.findIn t name
  let dataDescr : Option Nat := match found with
    | some (.entry d) => if w.isDataDescriptor d then some d else none
    | _ => none
  match dataDescr with
  | some d => w.bindDescriptor ask d (some o) typeOwner name
  | none =>
    let (own, moduleName?) : List (String × Ref) × Option (Option String) := match o with
      | .ref (.entry s) =>
        let e := w.entry s
        (e.attrs, match e.kind with
          | .module n => some n
          | _ => none)
      | _ => ([], none)
    let ownHit := (own.lookup name).filter fun r =>
      match moduleName? with
      | some n => w.visibleIn loaded n name r
      | none => true
    match ownHit with
    | some r => .ok (.ref r)
    | none =>
      match found with
      | some (.entry d) => if w.binds d then w.bindDescriptor ask d (some o) typeOwner name else .ok (.ref (.entry d))
      | some r => .ok (.ref r)
      | none =>
        match moduleName? with
        | some n => .error (.missing (.module n) name)
        | none =>
          match w.hookOf t with
          | .bareName => .error (.missing .bare name)
          | .delegate =>
            match own.lookup "__origin__" with
            | some r => if isDunder name then .error (.missing .bare name) else ask (.ref r) name
            | none => .error (.missing .bare name)
          | _ => .error (.missing (.inst (w.errorName t)) name)

/-- The lookup on a class. -/
def classGetAttr (w : World) (ask : Obj → String → Outcome) (c : Nat) (name : String) : Outcome :=
  let metaclass := (w.entry c).type
  let self : Obj := .ref (.entry c)
  let metaOwner : Obj := .ref (.entry metaclass)
  let viaMeta := w.findIn metaclass name
  let dataDescr : Option Nat := match viaMeta with
    | some (.entry d) => if w.isDataDescriptor d then some d else none
    | _ => none
  match dataDescr with
  | some d => w.bindDescriptor ask d (some self) metaOwner name
  | none =>
    match w.findIn c name with
    | some (.entry d) => if w.binds d then w.bindDescriptor ask d none self name else .ok (.ref (.entry d))
    | some r => .ok (.ref r)
    | none =>
      match viaMeta with
      | some (.entry d) => if w.binds d then w.bindDescriptor ask d (some self) metaOwner name else .ok (.ref (.entry d))
      | some r => .ok (.ref r)
      | none =>
        if w.hookOf metaclass == .enumeration then .error (.missing .bare name)
        else .error (.missing (.type (w.errorName c)) name)

/-- The lookup on a bound method: its type's entries, then its function's answer. -/
def methodGetAttr (w : World) (ask : Obj → String → Outcome) (o func : Obj) (name : String) :
    Outcome :=
  let t := w.methodType
  match w.findIn t name with
  | some (.entry d) => if w.binds d then w.bindDescriptor ask d (some o) (.ref (.entry t)) name else .ok (.ref (.entry d))
  | some r => .ok (.ref r)
  | none => ask func name

/-- Whether an entry's namespace or its type (or, for a class, its own classes) has a name. -/
def knows (w : World) (s : Nat) (name : String) : Bool :=
  let e := w.entry s
  (e.attrs.lookup name).isSome || w.defines e.type name ||
    (match e.kind with
      | .cls _ => w.defines s name
      | _ => false)

/-- One lookup, asking other objects through `ask`. -/
def step (w : World) (loaded : List String) (ask : Obj → String → Outcome) (o : Obj)
    (name : String) : Outcome :=
  match o with
  | .ref (.entry s) =>
    let e := w.entry s
    match e.answers.lookup name with
    | some a => a.outcome name
    | none =>
      let r : Outcome := match e.kind with
        | .cls _ => w.classGetAttr ask s name
        | .module _ => w.instanceGetAttr loaded ask o name
        | .other =>
          match w.shapeOf s, e.func with
          | .boundMethod, some f => w.methodGetAttr ask o (.ref f) name
          | _, _ =>
            match w.hookOf e.type, e.origin with
            | .alias, some og =>
              if aliasOwnNames.contains name then w.instanceGetAttr loaded ask o name
              else ask (.ref og) name
            | _, _ => w.instanceGetAttr loaded ask o name
      match r, e.otherwise with
      | .error _, some a => if w.knows s name then r else a.outcome name
      | _, _ => r
  | .method f _ => w.methodGetAttr ask o f name
  | _ => w.instanceGetAttr loaded ask o name

def getAttr (w : World) (loaded : List String) : Nat → Obj → String → Outcome
  | 0, _, _ => .error (.raised "RecursionError" "maximum recursion depth exceeded")
  | fuel + 1, o, name => w.step loaded (w.getAttr loaded fuel) o name

def lookupFuel : Nat := 64

/-- Whether an object can be called. -/
def isCallable (w : World) : Obj → Bool
  | .ref (.entry s) => (w.entry s).callable
  | .ref (.valueOf t) => w.defines t "__call__"
  | _ => true

/-- The name a handler is listed under: its defining module and qualified name, joined by a
dot, either being `None` when the object lacks it. -/
def handlerName (w : World) : Obj → String
  | .ref (.entry s) => ((w.entry s).handlerName).getD "None.None"
  | .ref (.valueOf _) => "None.None"
  | .method f _ => w.handlerName f
  | .builtinMethod d self =>
    let name := (((w.entry d).descriptor).map (·.1)).getD ""
    let owner? : Option String := match self with
      | .ref (.entry s) =>
        match (w.entry s).kind with
        | .cls f => some f.qualName
        | .module _ => none
        | .other => some (w.qualName (w.typeOf self))
      | _ => some (w.qualName (w.typeOf self))
    match owner? with
    | some q => "None." ++ q ++ "." ++ name
    | none => "None." ++ name
  | .slotMethod d _ =>
    match (w.entry d).descriptor with
    | some (name, c) => "None." ++ w.qualName c ++ "." ++ name
    | none => "None.None"

end World

end CommandLine.Objects
