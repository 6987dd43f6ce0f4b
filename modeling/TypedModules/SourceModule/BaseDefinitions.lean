import TypedModules.SourceModule.Contribution

/-! # Base definitions

One module holds the definitions that all generated modules build on:
associations, compositions, entities and type helpers.
-/

namespace TypedModules.SourceModule

def baseLines : List String :=
  ["",
    "export namespace Association \x7b",
    "    export type to <T> = T;",
    "    export namespace to \x7b",
    "        export type many <T extends readonly any[]> = T;",
    "    \x7d",
    "\x7d",
    "",
    "export namespace Composition \x7b",
    "    export type of <T> = T;",
    "    export namespace of \x7b",
    "        export type many <T extends readonly any[]> = T;",
    "    \x7d",
    "\x7d",
    "",
    "export class Entity \x7b",
    "    static data<T extends Entity> (this:T, _input:Object) : T \x7b",
    "        return \x7b\x7d as T // mock",
    "    \x7d",
    "\x7d",
    "",
    "export type EntitySet<T> = T[] & \x7b",
    "    data (input:object[]) : T[]",
    "    data (input:object) : T",
    "\x7d;",
    "",
    "export type DeepRequired<T> = \x7b",
    "    [K in keyof T]: DeepRequired<T[K]>",
    "\x7d & Required<T>;",
    ""]

def baseNamespace : Namespace where
  segments := ["_"]
  slashFree := by decide

def baseDefinitions : SourceModule :=
  { home := baseNamespace : SourceModule }.addLine .preamble ("\n".intercalate baseLines)

end TypedModules.SourceModule
