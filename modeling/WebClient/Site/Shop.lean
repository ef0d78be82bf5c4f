import WebClient.Site.Declare

/-!
# Shop — the pages of the marketplace

The catalog, the cart, orders, the visitor's own pages, and the back offices of sellers and
administrators.
-/

namespace WebClient
namespace Site
namespace Shop

def sellersOnly : RoleGuard := ⟨[.seller], "/login", "please log in with a seller account"⟩

def homePage : Page :=
  fetchPage "home" "Home"
    [source "categories" "/categories", source "hot" "/products/hot?limit=8",
     source "new" "/products/new?limit=8"]

def sellerDashboard : Page :=
  fetchPage "seller_dashboard" "Seller dashboard"
    [source "stats" "/seller/order/stats", source "products" "/seller/products",
     source "orders" "/seller/orders"]

def listing (name pattern title key path : String) : Declaration :=
  { name, pattern, page := fetchPage name title [source key path] }

def declarations : List Declaration :=
  [ { name := "home", pattern := "/", page := homePage },
    { name := "home", pattern := "/index.html", page := homePage },
    loginPage,
    registerPage,
    listing "products" "/products" "Products" "products" "/products",
    { name := "product", pattern := "/product/:id"
      page := fetchPage "product" "Product"
        [source "product" "/product?id=\x7bid\x7d",
         optionalSource "reviews" "/reviews?product_id=\x7bid\x7d"] },
    (listing "cart" "/cart" "Cart" "cart" "/cart").protect,
    Declaration.protect
    { name := "checkout", pattern := "/checkout"
      page := fetchPage "checkout" "Checkout"
        [source "cart" "/cart", source "addresses" "/addresses"] },
    (listing "orders" "/orders" "My orders" "orders" "/orders").protect,
    (listing "order" "/order/:id" "Order" "order" "/order?id=\x7bid\x7d").protect,
    (listing "profile" "/user/profile" "Profile" "user" "/auth/user").protect,
    (listing "addresses" "/user/addresses" "Addresses" "addresses" "/addresses").protect,
    Declaration.restrict
    { name := "seller_dashboard", pattern := "/seller/dashboard", page := sellerDashboard }
      sellersOnly,
    (listing "seller_products" "/seller/products" "My products" "products"
      "/seller/products").restrict sellersOnly,
    (listing "seller_orders" "/seller/orders" "Shop orders" "orders"
      "/seller/orders").restrict sellersOnly,
    (listing "seller_reviews" "/seller/reviews" "Reviews" "reviews"
      "/seller/reviews").restrict sellersOnly,
    Declaration.restrict
    { name := "seller", pattern := "/seller/*page", page := sellerDashboard }
      sellersOnly,
    (listing "admin_users" "/admin/users" "Users" "users" "/admin/users").restrict adminOnly,
    (listing "admin_sellers" "/admin/sellers" "Sellers" "sellers" "/admin/sellers").restrict
      adminOnly,
    (listing "admin_products" "/admin/products" "Products" "products"
      "/admin/products").restrict adminOnly,
    (listing "admin_orders" "/admin/orders" "Orders" "orders" "/admin/orders").restrict adminOnly,
    Declaration.restrict
    { name := "admin", pattern := "/admin/*page"
      page := fetchPage "admin_dashboard" "Administration"
        [source "stats" "/admin/order/stats"] }
      adminOnly ]

end Shop
end Site
end WebClient
