/-
What loading settings depends on, beside what is loaded.

A `Loader` sets the limits of what is read, and knows how a text that refers to settings is
read.

* `Loader.usual` — the limits of an interpreter with its default stack, and the usual way to
  write references;
* `Loader.reference?_name` — with it every field can be referred to by its name.

Design notes: what resolvers answer depends on the host, so they are left open.
-/
import Chip8.Settings.Template

namespace Chip8.Settings

/-- How settings are loaded. -/
structure Loader where
  /-- How deep collections may lie inside of the outermost one. -/
  depthLimit : Nat
  /-- The number of nodes that a document with aliases may count for. -/
  sizeLimit : Nat
  /-- What a text that refers to settings stands for, if it is well formed. -/
  reference? : String → Option Reference

/-- The loader of a host with some resolvers. -/
def Loader.usual (resolvers : Resolvers) : Loader where
  depthLimit := 99
  sizeLimit := 1000
  reference? s := (Template.ofText? s).map (Template.value resolvers)

/-- The loader of a host on which no resolvers are registered. -/
def Loader.plain : Loader := usual fun _ _ => none

end Chip8.Settings
