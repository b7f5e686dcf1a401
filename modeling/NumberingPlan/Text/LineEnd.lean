/-! Line ends. A carriage return, a line feed and the two together each end one line. -/
namespace NumberingPlan.Text

/-- Line ends as one line feed each. `done` holds what is read, last first. -/
def unifyLineEndsFrom (done : List Char) : List Char → List Char
  | [] => done.reverse
  | '\r' :: '\n' :: rest => unifyLineEndsFrom ('\n' :: done) rest
  | '\r' :: rest => unifyLineEndsFrom ('\n' :: done) rest
  | c :: rest => unifyLineEndsFrom (c :: done) rest

/-- Line ends as one line feed each. -/
def unifyLineEnds (text : List Char) : List Char := unifyLineEndsFrom [] text

end NumberingPlan.Text
