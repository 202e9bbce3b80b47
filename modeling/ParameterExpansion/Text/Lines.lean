import ParameterExpansion.Text

/-!
# Lines

Texts whose lines end in any of the three ways are read with a line feed at the end of each line,
and a text is split at its line feeds.
-/

namespace ParameterExpansion.Text

/-- `withLineFeeds t` ends each line of `t` with a line feed: a carriage return with the line feed
behind it counts as one line end, and so does a carriage return alone. -/
def withLineFeeds : Text → Text
  | [] => []
  | '\r' :: '\n' :: rest => '\n' :: withLineFeeds rest
  | '\r' :: rest => '\n' :: withLineFeeds rest
  | c :: rest => c :: withLineFeeds rest

/-- The lines of a text: what stands between its line feeds. -/
def lines : Text → List Text
  | [] => [[]]
  | c :: rest =>
    if c = '\n' then [] :: lines rest
    else match lines rest with
      | [] => [[c]]
      | line :: more => (c :: line) :: more

end ParameterExpansion.Text
