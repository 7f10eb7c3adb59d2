import ReleaseReview.Markup.Tag

/-!
# Events

What reading a text of markup comes upon, in the order of the text: the starts and ends of elements
and what stands between them.
-/

namespace ReleaseReview.Markup

/-- Something that reading comes upon. -/
inductive Event where
  | start (tag : Tag)
  | stop (name : String)
  | text (run : List Char)
  | comment (content : List Char)
  | instruction (content : List Char)
  | doctype (content : String)

end ReleaseReview.Markup
