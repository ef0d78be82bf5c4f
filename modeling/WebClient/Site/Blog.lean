import WebClient.Site.Declare

/-!
# Blog — the pages of the blog

Articles, comments, notifications, the editor for authors, and the administration.
-/

namespace WebClient
namespace Site
namespace Blog

def authorsOnly : RoleGuard := ⟨[.admin, .author], "/", "only authors can write articles"⟩

def taxonomy : List Source := [source "categories" "/categories", source "tags" "/tags"]

def declarations : List Declaration :=
  [ { name := "home", pattern := "/"
      page := fetchPage "home" "Latest articles" (source "articles" "/articles" :: taxonomy) },
    loginPage,
    registerPage,
    { name := "article", pattern := "/article/:id"
      page := fetchPage "article" "Article"
        [source "article" "/articles/\x7bid\x7d",
         source "comments" "/articles/\x7bid\x7d/comments"] },
    { name := "search", pattern := "/search"
      page := fetchPage "search" "Search" [source "results" "/search?q=\x7bq\x7d"] },
    Declaration.protect
    { name := "notifications", pattern := "/notifications"
      page := fetchPage "notifications" "Notifications"
        [source "notifications" "/notifications"] },
    Declaration.restrict
    { name := "my_articles", pattern := "/my-articles"
      page := fetchPage "my_articles" "My articles" [source "articles" "/articles?mine=1"] }
      authorsOnly,
    Declaration.restrict
    { name := "editor", pattern := "/editor"
      page := fetchPage "editor" "New article" taxonomy }
      authorsOnly,
    Declaration.restrict
    { name := "editor_edit", pattern := "/editor/:id"
      page := fetchPage "editor" "Edit article"
        (source "article" "/articles/\x7bid\x7d" :: taxonomy) }
      authorsOnly,
    Declaration.restrict
    { name := "admin_users", pattern := "/admin/users"
      page := fetchPage "admin_users" "Users" [source "users" "/admin/users"] }
      adminOnly,
    Declaration.restrict
    { name := "admin_comments", pattern := "/admin/comments"
      page := fetchPage "admin_comments" "Pending comments"
        [source "comments" "/admin/comments/pending"] }
      adminOnly,
    Declaration.restrict
    { name := "admin", pattern := "/admin/*page"
      page := .static "admin" "Administration" }
      adminOnly ]

end Blog
end Site
end WebClient
