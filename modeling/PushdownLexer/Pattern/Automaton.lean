import PushdownLexer.Pattern.Expr
import Std.Data.TreeSet

/-!
# Matching by threads

An expression becomes a `Node` whose branch points and characters are numbered. A thread is a list
of nodes still to be matched, one after the other. Matching keeps the threads of a place in order of
preference: a `Frontier` holds the characters that they wait for, each numbered node being passed
once, and the ones whose character comes next move on. The first thread to end wins over
all threads after it; a thread before it may still end later and win.

## Main definitions

* `Expr.toNode`: the numbered form of an expression.
* `Node.enter`, `Frontier.ofThreads`: the characters that threads wait for at a place.
* `Node.matchLength?`: the length of the preferred match at a place.
* `Node.find?`: the leftmost match in a text.
-/

namespace PushdownLexer

/-- An expression with numbered branch points and characters. -/
inductive Node where
  | empty
  | char (id : Nat) (set : CharSet)
  | look (l : Look)
  | cat (first second : Node)
  /-- First the one, then the other. -/
  | alt (id : Nat) (first second : Node)
  /-- One more round of the body and back here, or on; the greedy kind prefers one more round. -/
  | loop (id : Nat) (greedy : Bool) (body : Node)
  deriving DecidableEq, Repr, Inhabited

namespace Node

/-- A body that may be left out. -/
def optional (id : Nat) (greedy : Bool) (body : Node) : Node :=
  if greedy then alt id body empty else alt id empty body

/-- The characters of a literal, numbered from `n` on. -/
def ofLiteral : List Char → Nat → Node × Nat
  | [], n => (empty, n)
  | [c], n => (char n (CharSet.single c), n + 1)
  | c :: rest, n =>
    let (tail, m) := ofLiteral rest (n + 1)
    (cat (char n (CharSet.single c)) tail, m)

/-- `count` copies of a body, one after the other, each with numbers of its own. -/
def copies (body : Nat → Node × Nat) : Nat → Nat → Node × Nat
  | 0, n => (empty, n)
  | count + 1, n =>
    let (first, m) := body n
    let (rest, k) := copies body count m
    (cat first rest, k)

/-- Up to `count` copies of a body. -/
def upTo (body : Nat → Node × Nat) (greedy : Bool) : Nat → Nat → Node × Nat
  | 0, n => (empty, n)
  | count + 1, n =>
    let (first, m) := body (n + 1)
    let (rest, k) := upTo body greedy count m
    (optional n greedy (cat first rest), k)

/-- One round or more. The round in front has the numbers of the rounds of the loop. -/
def oneOrMore (body : Nat → Node × Nat) (greedy : Bool) (n : Nat) : Node × Nat :=
  let (round, m) := body (n + 1)
  (cat round (loop n greedy round), m)

/-- No round or more. A body that may match the empty text is entered as by `oneOrMore`, which keeps
the order of preference of its rounds. -/
def zeroOrMore (body : Nat → Node × Nat) (greedy consuming : Bool) (n : Nat) : Node × Nat :=
  if consuming then
    let (round, m) := body (n + 1)
    (loop n greedy round, m)
  else
    let (rounds, m) := oneOrMore body greedy (n + 1)
    (optional n greedy rounds, m)

/-- Whether a match can only begin at the start of the text. -/
def anchored : Node → Bool
  | look .textStart => true
  | cat a _ => anchored a
  | alt _ a b => anchored a && anchored b
  | _ => false

end Node

/-- Number an expression from `n` on; with the first number not used. -/
def Expr.number : Expr → Nat → Node × Nat
  | .empty, n => (.empty, n)
  | .literal cs, n => Node.ofLiteral cs n
  | .set s, n => (.char n s, n + 1)
  | .look l, n => (.look l, n)
  | .group _ e, n => e.number n
  | .cat a b, n =>
    let (first, m) := a.number n
    let (second, k) := b.number m
    (.cat first second, k)
  | .alt a b, n =>
    let (first, m) := a.number (n + 1)
    let (second, k) := b.number m
    (.alt n first second, k)
  | .rounds e 0 none greedy, n =>
    Node.zeroOrMore e.number greedy ((e.minLength.getD 0) != 0) n
  | .rounds e (least + 1) none greedy, n =>
    let (front, m) := Node.copies e.number least n
    let (rest, k) := Node.oneOrMore e.number greedy m
    (.cat front rest, k)
  | .rounds e least (some most) greedy, n =>
    let (front, m) := Node.copies e.number least n
    let (rest, k) := Node.upTo e.number greedy (most - least) m
    (.cat front rest, k)

/-- The numbered form of an expression. -/
def Expr.toNode (e : Expr) : Node := (e.number 0).1

/-- The nodes that are still to be matched, one after the other. -/
abbrev Thread := List Node

/-- A thread that waits for a character of a set. -/
structure Waiting where
  set : CharSet
  rest : Thread
  deriving DecidableEq, Repr

/-- What the threads of a place come to: the numbers passed, the threads that wait for a character,
the preferred one last, and whether a thread has ended. -/
structure Frontier where
  seen : Std.TreeSet Nat
  waiting : List Waiting
  ended : Bool

namespace Frontier

/-- Nothing followed yet. -/
def start : Frontier := ⟨∅, [], false⟩

/-- Go on at a numbered node, unless it was passed before or a thread has ended. -/
def visit (f : Frontier) (id : Nat) (go : Frontier → Frontier) : Frontier :=
  if f.ended || f.seen.contains id then f else go { f with seen := f.seen.insert id }

/-- Let a thread wait for a character of a set. -/
def wait (f : Frontier) (set : CharSet) (rest : Thread) : Frontier :=
  { f with waiting := ⟨set, rest⟩ :: f.waiting }

/-- The threads after the character `c`, in order of preference. -/
def after (f : Frontier) (c : Char) : List Thread :=
  f.waiting.foldl (fun acc w => if w.set.contains c then w.rest :: acc else acc) []

end Frontier

/-- Follow a node at a place: `rest` is what the thread still has to match after it, and `go`
follows that. Inside a loop, coming back to the loop ends the path, as it was passed already. -/
def Node.enter (p : Place) : Node → Thread → (Frontier → Frontier) → Frontier → Frontier
  | .empty, _, go, f => go f
  | .char id set, rest, _, f => f.visit id fun f => f.wait set rest
  | .look l, _, go, f => if l.holds p then go f else f
  | .cat a b, rest, go, f => a.enter p (b :: rest) (b.enter p rest go) f
  | .alt id a b, rest, go, f => f.visit id fun f => b.enter p rest go (a.enter p rest go f)
  | .loop id greedy body, rest, go, f =>
    f.visit id fun f =>
      if greedy then go (body.enter p (.loop id greedy body :: rest) (fun f => f) f)
      else body.enter p (.loop id greedy body :: rest) (fun f => f) (go f)

/-- Follow a thread at a place. -/
def Thread.follow (p : Place) : Thread → Frontier → Frontier
  | [], f => { f with ended := true }
  | node :: rest, f => node.enter p rest (follow p rest) f

/-- Follow threads at a place, in order of preference. -/
def Frontier.ofThreads (p : Place) (threads : List Thread) : Frontier :=
  threads.foldl (fun f t => Thread.follow p t f) start

/-- The length of the preferred match of the threads in `text`, after `before`. So far `count`
characters have been matched, and `best` is the length of the match that wins if no thread ends
any more. -/
def matchThreads (before : Option Char) (threads : List Thread) (count : Nat)
    (best : Option Nat) : List Char → Option Nat
  | [] => if (Frontier.ofThreads ⟨before, none⟩ threads).ended then some count else best
  | c :: text =>
    let f := Frontier.ofThreads ⟨before, some c⟩ threads
    let best := if f.ended then some count else best
    match f.after c with
    | [] => best
    | threads => matchThreads (some c) threads (count + 1) best text

/-- The length of the preferred match of `node` at the start of `text`, after `before`. -/
def Node.matchLength? (node : Node) (before : Option Char) (text : List Char) : Option Nat :=
  matchThreads before [[node]] 0 none text

/-- Where the leftmost match in `text` starts, `skipped` characters being before, and its length. -/
def Node.findFrom? (node : Node) (before : Option Char) (skipped : Nat) :
    List Char → Option (Nat × Nat)
  | [] => (node.matchLength? before []).map (skipped, ·)
  | c :: text =>
    match node.matchLength? before (c :: text) with
    | some length => some (skipped, length)
    | none => node.findFrom? (some c) (skipped + 1) text

/-- Where the leftmost match in `text` starts, and its length, in characters. -/
def Node.find? (node : Node) (text : List Char) : Option (Nat × Nat) :=
  if node.anchored then (node.matchLength? none text).map (0, ·) else node.findFrom? none 0 text

end PushdownLexer
