namespace MergeBench.Shell

/-- What `$\x7bname…\x7d` does with the value of a parameter. -/
inductive ParameterUse where
  | value
  | length
  /-- With a colon an empty value counts as none. -/
  | default (colon : Bool)
  | assign (colon : Bool)
  | alternative (colon : Bool)
  | require (colon : Bool)
  | trim (atFront longest : Bool)
  deriving DecidableEq, Repr

inductive RedirectionKind where
  | read
  | write
  /-- Writes to a file also where files are kept. -/
  | overwrite
  | append
  | duplicate
  | text
  deriving DecidableEq, Repr

mutual

inductive Part where
  | text (s : List Char) (quoted : Bool)
  | parameter (name : String) (how : ParameterUse) (word : List Part) (quoted : Bool)
  | output (body : Statement) (quoted : Bool)
  | arithmetic (body : List Part) (quoted : Bool)

inductive Redirection where
  | mk (descriptor : Nat) (kind : RedirectionKind) (target : List Part)

inductive Statement where
  | simple (line : Nat) (assignments : List (String × List Part)) (words : List (List Part))
      (redirections : List Redirection)
  | pipeline (negated : Bool) (parts : List Statement)
  | both (a b : Statement)
  | either (a b : Statement)
  | sequence (parts : List Statement)
  | background (body : Statement)
  | branch (condition yes no : Statement)
  | loop (untilTrue : Bool) (condition body : Statement)
  | each (name : String) (words : Option (List (List Part))) (body : Statement)
  | choice (subject : List Part) (cases : List (List (List Part) × Statement))
  | group (body : Statement) (redirections : List Redirection)
  | subshell (body : Statement) (redirections : List Redirection)
  | define (name : String) (body : Statement)

end

abbrev Word := List Part

/-- A statement that ends the script if it fails and failures are to end it; others pass that on. -/
def Statement.canFail : Statement → Bool
  | simple .. | pipeline false _ | subshell .. => true
  | _ => false

def Statement.nothing : Statement :=
  .sequence []

end MergeBench.Shell
