import WebClient.Endpoint.Query

/-!
# Blog — articles, comments, taxonomy, notifications, user administration
-/

namespace WebClient
namespace Endpoint
namespace Blog

/-- Articles, optionally of a page, a category or a tag. -/
def articles (page category tag : Option Int) : Call :=
  .get (withQuery "/articles" (present
    [("page", page.map text), ("category_id", category.map text), ("tag_id", tag.map text)]))

def article (id : Int) : Call := .get ("/articles/" ++ text id)

/-- An article as the editor sends it: title, content, category and tags. -/
def createArticle (article : Json) : Call := .post "/articles" article

def updateArticle (id : Int) (article : Json) : Call := .put ("/articles/" ++ text id) article

def deleteArticle (id : Int) : Call := .delete ("/articles/" ++ text id)

def likeArticle (id : Int) : Call := .bare .post ("/articles/" ++ text id ++ "/like")

def comments (article : Int) : Call := .get ("/articles/" ++ text article ++ "/comments")

/-- A comment on an article, in answer to another comment if there is a parent. -/
def createComment (article : Int) (content : String) (parent : Option Int) : Call :=
  .post ("/articles/" ++ text article ++ "/comments")
    (object <| [("content", Json.string content)] ++
      (parent.map fun id => ("parent_id", Json.int id)).toList)

def deleteComment (id : Int) : Call := .delete ("/comments/" ++ text id)

def likeComment (id : Int) : Call := .bare .post ("/comments/" ++ text id ++ "/like")

def categories : Call := .get "/categories"

def tags : Call := .get "/tags"

def search (keyword : String) : Call := .get (withQuery "/search" [("q", keyword)])

def notifications : Call := .get "/notifications"

def markNotificationRead (id : Int) : Call :=
  .bare .put ("/notifications/" ++ text id ++ "/read")

def adminUsers : Call := .get "/admin/users"

/-- Changes fields of a user, such as the role or the status. -/
def adminUpdateUser (id : Int) (changes : Json) : Call :=
  .put ("/admin/users/" ++ text id) changes

def adminDeleteUser (id : Int) : Call := .delete ("/admin/users/" ++ text id)

def pendingComments : Call := .get "/admin/comments/pending"

def moderateComment (id : Int) (approved : Bool) : Call :=
  .put ("/admin/comments/" ++ text id ++ "/approve")
    (object [("status", .string (if approved then "approved" else "rejected"))])

end Blog
end Endpoint
end WebClient
