import ServiceContract.Validation

/-!
# Contracts

The checks of one interface: for each function its arguments and its result, for each message its
payload. Both sides of a boundary share the contract, so they accept the same values.
-/

namespace ServiceContract

open Json (Value Members)

/-- The checks of one function. -/
structure FunctionContract where
  /-- The name of the function. -/
  name : String
  /-- A check for each argument, in the order of declaration. -/
  arguments : List (String × Validator)
  /-- The check of the result, if one is declared. -/
  returns : Option Validator

namespace FunctionContract

/-- The checks of a declared function. -/
def ofFunction (registry : Registry) (maxDepth : Nat) (f : Function) : FunctionContract :=
  { name := f.name
    arguments := f.arguments.map fun a => (a.name, ⟨a.schema, registry, maxDepth⟩)
    returns := f.returns.map fun r => ⟨r.schema, registry, maxDepth⟩ }

/-- The names of the arguments, in the order of declaration. -/
def argumentNames (contract : FunctionContract) : List String := contract.arguments.map Prod.fst

/-- Checks the arguments that are declared, in the order of declaration. -/
def checkEach (arguments : Members) : List (String × Validator) → Except Error Unit
  | [] => .ok ()
  | (name, validator) :: rest => do
    if let some value := arguments.lookup name then
      (validator.check value).mapError fun v => .validation (v.within (.field name))
    checkEach arguments rest

/-- Checks that exactly the declared arguments are there and that each is accepted. An argument that
is not declared is the first thing to be refused, then missing ones. -/
def checkArguments (contract : FunctionContract) (arguments : Members) : Except Error Unit :=
  match arguments.find? fun (key, _) => !decide (key ∈ contract.argumentNames) with
  | some (key, _) => .error (.unknownArgument contract.name key)
  | none =>
    match contract.argumentNames.filter fun name => (arguments.lookup name).isNone with
    | [] => checkEach arguments contract.arguments
    | missing => .error (.arity contract.name missing)

/-- Checks a result; without a declaration everything is accepted. -/
def checkResult (contract : FunctionContract) (value : Value) : Checked :=
  match contract.returns with
  | some validator => validator.check value
  | none => .ok ()

end FunctionContract

/-- The checks of an interface. -/
structure Contract where
  /-- The interface. -/
  interface : Interface
  /-- The checks of each function, in the order of declaration. -/
  functions : List FunctionContract
  /-- The check of each message, in the order of declaration. -/
  messages : List (String × Validator)

namespace Contract

/-- The checks of an interface, up to a given depth. -/
def ofInterface (i : Interface) (maxDepth : Nat := defaultMaxDepth) : Contract :=
  { interface := i
    functions := i.functions.map (.ofFunction i.registry maxDepth)
    messages := i.messages.map fun m => (m.name, ⟨m.schema, i.registry, maxDepth⟩) }

/-- The checks of a function. -/
def function (contract : Contract) (name : String) : Except Error FunctionContract :=
  match contract.functions.find? fun f => f.name == name with
  | some f => .ok f
  | none => .error (.unknownFunction name)

/-- The check of a message. -/
def message (contract : Contract) (name : String) : Except Error Validator :=
  match contract.messages.lookup name with
  | some validator => .ok validator
  | none => .error (.unknownMessage name)

end Contract

end ServiceContract
