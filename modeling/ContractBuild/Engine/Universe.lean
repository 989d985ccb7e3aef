import ContractBuild.Engine.Basic

/-!
# Modules

The modules that can be imported, and how a dotted name is imported: the packages on the way
first, each of which must exist, load without an error and be a package if something follows. A
module that was imported can be seen as an attribute of its package from then on; what was
imported before a failure stays imported.

A module is known by what it holds under which name. `Holding` is one such value with all that
`_instantiate` of the program asks of it: whether it is a class, what calling it gives, whether it
has the entry points of an engine. `Attribute.ofHolding` is the choice that is made from these
answers. `inherited` and `ofFile` list what every module has besides, since a reference may name
that as well.

Importing has no effect but what is imported. Looking at an object has none either: attributes
that are computed when they are read are modelled for modules (a module's own `__getattr__`), not
for the objects that modules hold.
-/

namespace ContractBuild

/-- A value that a module holds or a call returns. -/
inductive Object where
  | engine (e : Engine)
  /-- A command of a command line. -/
  | command (name : String)
  | document (d : Document)
  /-- Anything else, known by the name of its type. -/
  | other (typeName : String)

/-- The name of an object's type. -/
def Object.typeName : Object → String
  | engine e => e.typeName
  | command _ => "Command"
  | document d => d.kindName
  | other t => t

/-- Whether an object has the entry points of an engine. -/
def Object.isEngine : Object → Bool
  | engine _ => true
  | _ => false

/-- A value that a module holds, with what a loader of engines asks of it. -/
structure Holding where
  /-- The value itself. A class has the entry points of its instances. -/
  object : Object
  isClass : Bool := false
  /-- What calling the value without arguments gives, if it can be called at all. -/
  call? : Option (Except Failure Object) := none

/-- What an attribute of a module is. -/
inductive Attribute where
  /-- An object that is used as it is. -/
  | object (o : Object)
  /-- A class or a factory without arguments, known by what calling it gives. -/
  | maker (call : Except Failure Object)

namespace Attribute

/-- How a value is loaded. A class passes for an engine whenever its instances do, so it is always
called; anything else that can be called is called only if it is no engine itself. -/
def ofHolding (h : Holding) : Attribute :=
  match h.call? with
  | some call => if h.isClass || !h.object.isEngine then maker call else object h.object
  | none => object h.object

/-- An object of no further interest, known by the name of its type. -/
def value (typeName : String) : Attribute := .object (.other typeName)

/-- A class or function that can be called without arguments, known by the type of the result. -/
def callable (typeName : String) : Attribute := .maker (.ok (.other typeName))

/-- A class or function that cannot be called without arguments. -/
def uncallable (message : String) : Attribute :=
  .maker (.error (.foreign { kind := "TypeError", message }))

/-- What calling an attribute gives. -/
def call : Attribute → Except Failure Attribute
  | object o =>
    .error (.foreign
      { kind := "TypeError", message := "'" ++ o.typeName ++ "' object is not callable" })
  | maker made => made.map object

end Attribute

structure Module where
  name : String
  /-- Whether other modules may stand below it. -/
  isPackage : Bool := false
  /-- The error raised while the module is imported. -/
  importError : Option Failure := none
  attributes : List (String × Attribute) := []

/-- The modules that exist. A later module takes the place of an earlier one of the same name. -/
abbrev Universe := List Module

/-- The names of the modules that were imported so far. -/
abbrev Imported := List String

namespace Module

/-- The attributes that every module has. -/
def inherited : List (String × Attribute) := [
  ("__name__", .value "str"),
  ("__doc__", .value "NoneType"),
  ("__package__", .value "str"),
  ("__spec__", .value "ModuleSpec"),
  ("__dict__", .value "dict"),
  ("__annotations__", .value "dict"),
  ("__dir__", .callable "list"),
  ("__getstate__", .callable "dict"),
  ("__hash__", .callable "int"),
  ("__init_subclass__", .callable "NoneType"),
  ("__repr__", .callable "str"),
  ("__sizeof__", .callable "int"),
  ("__str__", .callable "str"),
  ("__subclasshook__", .callable "NotImplementedType"),
  ("__class__", .uncallable "module() missing required argument 'name' (pos 1)"),
  ("__delattr__", .uncallable "expected 1 argument, got 0"),
  ("__eq__", .uncallable "expected 1 argument, got 0"),
  ("__format__", .uncallable "__format__() takes exactly one argument (0 given)"),
  ("__ge__", .uncallable "expected 1 argument, got 0"),
  ("__getattribute__", .uncallable "expected 1 argument, got 0"),
  ("__gt__", .uncallable "expected 1 argument, got 0"),
  ("__init__", .uncallable "module() missing required argument 'name' (pos 1)"),
  ("__le__", .uncallable "expected 1 argument, got 0"),
  ("__lt__", .uncallable "expected 1 argument, got 0"),
  ("__ne__", .uncallable "expected 1 argument, got 0"),
  ("__new__", .uncallable "module.__new__(): not enough arguments"),
  ("__reduce__", .uncallable "cannot pickle 'module' object"),
  ("__reduce_ex__", .uncallable "__reduce_ex__() takes exactly one argument (0 given)"),
  ("__setattr__", .uncallable " expected 2 arguments, got 0")]

/-- The further attributes of a module that was read from a file. -/
def ofFile : List (String × Attribute) := [
  ("annotations", .value "_Feature"),
  ("__doc__", .value "str"),
  ("__file__", .value "str"),
  ("__cached__", .value "str"),
  ("__builtins__", .value "dict"),
  ("__loader__", .value "SourceFileLoader")]

/-- What stands under a name: a module that was imported, or else an attribute. A module stands in
the package right above it, so no name with a point in it leads to one. A module's own attributes
hide those that every module has; a package also has its search path. -/
def find? (imported : Imported) (m : Module) (name : String) : Option Attribute :=
  if !name.toList.contains '.' && imported.contains (m.name ++ "." ++ name) then
    some (.value "module")
  else m.attributes.lookup name <|> inherited.lookup name <|>
    if m.isPackage && name = "__path__" then some (.value "list") else none

/-- The name that a module gives itself, if that is a text. -/
def ownName? (m : Module) : Option String :=
  match m.attributes.lookup "__name__" with
  | some (.object (.document (.str s))) => some s
  | some _ => none
  | none => some m.name

/-- Looks up an attribute. A module may have a function that is asked for what it does not have. -/
def get (imported : Imported) (m : Module) (name : String) : Except Failure Attribute :=
  match m.find? imported name, m.attributes.lookup "__getattr__" with
  | some a, _ => .ok a
  | none, some a => a.call
  | none, none => .error (.misuse (.noAttribute m.ownName? name))

/-- The names of the packages on the way to a module, and of the module itself. -/
def ancestry (name : String) : List String :=
  (name.toList.splitOn '.').foldl (fun (acc : List String) part =>
    let part := String.ofList part
    match acc.getLast? with
    | none => [part]
    | some parent => acc ++ [parent ++ "." ++ part]) []

/-- The error of a module that does not exist. -/
def notFound (message : String) : Failure := .foreign { kind := "ModuleNotFoundError", message }

/-- Checks that a module is a package, which it is if it has a search path. -/
def checkPackage (imported : Imported) (m : Module) (name : String) : Except Failure Unit :=
  match m.get imported "__path__" with
  | .ok _ => .ok ()
  | .error f =>
    if f.meansNoAttribute then
      .error (notFound ("No module named " ++ Text.quoted name ++ "; " ++ Text.quoted m.name
        ++ " is not a package"))
    else .error f

/-- Imports one name of an ancestry, `parent` being the module imported before. -/
def importStep (u : Universe) (imported : Imported) (parent : Option Module) (name : String) :
    Except Failure Module := do
  if let some p := parent then
    p.checkPackage imported name
  match u.reverse.find? (·.name = name) with
  | none => throw (notFound ("No module named " ++ Text.quoted name))
  | some m =>
    match m.importError with
    | some f => throw f
    | none => return m

/-- Imports the names of an ancestry one after another. What was imported stays so if a later name
fails. -/
def importAll (u : Universe) :
    Imported → Option Module → List String → Except Failure (Option Module) × Imported
  | imported, m, [] => (.ok m, imported)
  | imported, m, name :: names =>
    match importStep u imported m name with
    | .error f => (.error f, imported)
    | .ok next => importAll u (imported ++ [name]) (some next) names

/-- Imports a module by its dotted name. -/
def load (u : Universe) (imported : Imported) (name : String) :
    Except Failure Module × Imported :=
  if name.toList.head? = some '.' then (.error (.misuse (.relativeModule name)), imported)
  else if name = "" then (.error (.misuse .emptyModule), imported)
  else
    match importAll u imported none (ancestry name) with
    | (.ok (some m), imported) => (.ok m, imported)
    | (.ok none, imported) => (.error (.misuse .emptyModule), imported)
    | (.error f, imported) => (.error f, imported)

end Module

/-- The part of a reference before its first colon and, if there is a colon, the part after it. -/
def splitReference (reference : String) : String × Option String :=
  let cs := reference.toList
  let moduleName := String.ofList (cs.takeWhile (· ≠ ':'))
  match cs.dropWhile (· ≠ ':') with
  | ':' :: rest => (moduleName, some (String.ofList rest))
  | _ => (moduleName, none)

end ContractBuild
