import ServiceContract.Digest.Sha256
import ServiceContract.Interface.Basic
import ServiceContract.Json.Printer
import ServiceContract.Schema.Description

/-!
# Fingerprints

Two parties compare their interfaces by a digest of a canonical text. It describes everything that
can be called or sent, with the named types of every document that is reached; the key of the
document itself is not part of it.
-/

namespace ServiceContract

open Json (Value)

/-- The description of a service. -/
def Service.describe (s : Service) : Value :=
  .object [("name", .string s.name), ("version", .string s.version.text),
    ("description", .string s.description)]

/-- The description of a named type. -/
def NamedType.describe (t : NamedType) : Value :=
  .object [("name", .string t.name), ("description", .string t.description),
    ("schema", t.schema.describe)]

/-- The description of an argument. -/
def Argument.describe (a : Argument) : Value :=
  .object [("name", .string a.name), ("description", .string a.description),
    ("schema", a.schema.describe)]

/-- The description of a result. -/
def Returns.describe (r : Returns) : Value :=
  .object [("description", .string r.description), ("schema", r.schema.describe)]

/-- The description of a function; a result that is not declared is left out. -/
def Function.describe (f : Function) : Value :=
  .object ([("name", .string f.name), ("description", .string f.description),
    ("arguments", .array (f.arguments.map Argument.describe))] ++
    optionalMember "returns" Returns.describe f.returns)

/-- The description of a message. -/
def Message.describe (m : Message) : Value :=
  .object [("name", .string m.name), ("description", .string m.description),
    ("schema", m.schema.describe)]

namespace Interface

/-- The description that the fingerprint is made from. -/
def canonical (i : Interface) : Value :=
  .object [("service", i.service.describe),
    ("functions", .array (i.functions.map Function.describe)),
    ("messages", .array (i.messages.map Message.describe)),
    ("types", .array (i.types.map NamedType.describe)),
    ("schemas", .object (i.fragments.map fun (key, schema) => (key, schema.describe))),
    ("externals", .object (i.registry.externals.map fun (key, registry) =>
      (key, .array (registry.types.map NamedType.describe))))]

/-- The digest of the canonical text, in hexadecimal digits. -/
def fingerprint (i : Interface) : String := Sha256.hex (Sha256.digest i.canonical.encode)

end Interface

end ServiceContract
