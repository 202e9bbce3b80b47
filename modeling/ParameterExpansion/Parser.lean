import ParameterExpansion.Scanner

/-!
# The parser

A `Parser` reads one template after the other under one nesting limit. It keeps what it read last
and where it stopped; the next template is read from a fresh start, so this is never looked at.
-/

namespace ParameterExpansion

/-- A parser: its nesting limit, and where its last scan of which template stopped. -/
structure Parser where
  /-- How many braced references may stand in each other. -/
  limit : NestingLimit
  /-- The template that was read last. -/
  source : Text
  /-- How many of its characters have been read. -/
  position : Nat
  /-- How many braced references were open then. -/
  depth : Nat

namespace Parser

/-- A parser that has read nothing. -/
def ofLimit (limit : NestingLimit) : Parser := ⟨limit, [], 0, 0⟩

/-- Makes the parser ready for a template: all of it is to be read and nothing is open. -/
def reset (p : Parser) (source : Text) : Parser := { p with source, position := 0, depth := 0 }

/-- Where the scan of the parser's template stands. -/
def scanner (p : Parser) : Scanner := ⟨p.source.drop p.position, p.position, p.depth⟩

/-- The parser after its scan came to stand at `s`. -/
def stopAt (p : Parser) (s : Scanner) : Parser := { p with position := s.position, depth := s.depth }

/-- Reads a template: its tree or what is wrong with it, and the parser afterwards. -/
def parse (p : Parser) (source : Text) : Except ParseError Node × Parser :=
  let fresh := p.reset source
  match fresh.scanner.pieces p.limit .template with
  | .ok (pieces, s) => (.ok (Node.ofPieces pieces), fresh.stopAt s)
  | .error halt => (.error halt.error, fresh.stopAt halt.scanner)

end Parser

end ParameterExpansion
