import ScriptGrader.Document.Error

/-!
# The nodes of a document

A document is a tree of texts, sequences and mappings. Every node has a
tag, which says what kind of value it is, and the place where it begins.
An alias stands for the node itself and not for one like it, so nodes are
numbered: two places hold one node if its number is the same.
-/

namespace ScriptGrader.Document

/-- A node of a document. The parts of a node have smaller numbers than the node. -/
inductive Node
  | scalar (number : Nat) (tag : String) (text : String) (start : Mark)
  | sequence (number : Nat) (tag : String) (items : List Node) (start : Mark)
  | mapping (number : Nat) (tag : String) (entries : List (Node × Node)) (start : Mark)
  deriving Repr, Inhabited

namespace Node

def number : Node → Nat
  | scalar n _ _ _ => n
  | sequence n _ _ _ => n
  | mapping n _ _ _ => n

def tag : Node → String
  | scalar _ t _ _ => t
  | sequence _ t _ _ => t
  | mapping _ t _ _ => t

def start : Node → Mark
  | scalar _ _ _ m => m
  | sequence _ _ _ m => m
  | mapping _ _ _ m => m

def shape : Node → Shape
  | scalar .. => .scalar
  | sequence .. => .sequence
  | mapping .. => .mapping

end Node
end ScriptGrader.Document
